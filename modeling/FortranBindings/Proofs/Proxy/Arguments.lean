import FortranBindings.Proofs.Bridge.Arguments
import FortranBindings.Proofs.Proxy.ArgumentName
import FortranBindings.Proofs.Template.History
import FortranBindings.Proxy.Make

/-!
# The arguments of a proxy

A proxy has one dummy argument for each parameter of its bridge that takes an argument, and passes
to the bridge one actual argument for each of them, in the order of the parameters
(`Proxy.Agrees`). The actual argument is the parameter's code for `fin` as it is found at that time
(`Lookup.Gives`); after plain lookups this is the code that is found without any history
(`Lookup.Gives.eq_answer`).
-/

namespace FortranBindings

variable {sources : Sources} {types : List CxxType} {state : LookupState}

/-! ## Code found later -/

namespace Lookup

/-- Lookups for some types, by operations without a colon, lead from one state to another. -/
inductive Leads (sources : Sources) (types : List CxxType) (state : LookupState) :
    LookupState → Prop
  | refl : Leads sources types state state
  | find {next : LookupState} {request : Request} (h : Leads sources types state next)
      (hop : ':' ∉ request.operation.toList) (htype : request.type ∈ types) :
      Leads sources types state ((Lookup.find sources request).run next).2

/-- The code is what a request finds in a state that lookups lead to. -/
def Gives (sources : Sources) (types : List CxxType) (state : LookupState) (request : Request)
    (code : String) : Prop :=
  ∃ next, Leads sources types state next ∧ code = ((Lookup.code sources request).run next).1

theorem Leads.sound {next : LookupState} (h : Leads sources types state next)
    (hstate : state.Sound sources) (htypes : ∀ type ∈ types, type.IsSpelled) :
    next.Sound sources := by
  induction h with
  | refl => exact hstate
  | find _ hop htype ih => exact (find_ensures ⟨hop, htypes _ htype⟩ _ ih).2

/-- Plain lookups on the way do not change the code that is found. -/
theorem Gives.eq_answer {request : Request} {code : String}
    (h : Gives sources types state request code) (hstate : state.Sound sources)
    (htypes : ∀ type ∈ types, type.IsSpelled) (hrequest : request.IsPlain) :
    code = ((answer? sources request).map Typemap.code).getD "" := by
  obtain ⟨next, hnext, rfl⟩ := h
  have hfound := (find_ensures hrequest next (hnext.sound hstate htypes)).1
  exact congrArg (fun found => (found.map Typemap.code).getD "") hfound

section

variable {operation : String} {suffix : Option String} {type : CxxType} {attached : Attachments}
  {need : Need} {location : Location}

theorem find_leads (hop : ':' ∉ operation.toList) (htype : type ∈ types) :
    Ensures (Leads sources types state)
      (find sources { operation, suffix, type, attached, need, location }) fun _ => True :=
  fun _ hnext => ⟨trivial, hnext.find hop htype⟩

theorem code_leads (hop : ':' ∉ operation.toList) (htype : type ∈ types) :
    Ensures (Leads sources types state)
      (code sources { operation, suffix, type, attached, need, location })
      (Gives sources types state { operation, suffix, type, attached, need, location }) :=
  fun next hnext => ⟨⟨next, hnext, rfl⟩, hnext.find hop htype⟩

end

end Lookup

/-- The types that the templates of a bridge are looked up for. -/
def Bridge.lookupTypes (bridge : Bridge) : List CxxType :=
  .void :: bridge.result :: bridge.parameters.map Parameter.type

namespace Proxy

/-! ## Slots -/

theorem slots_eq_map_filter (bridge : Bridge) :
    slots bridge = (((bridge.parameters.zip bridge.attachments).zipIdx 1).filter
      fun x => !x.1.2.isZeroInput).map fun x => ⟨x.2, x.1.1, x.1.2⟩ := by
  rw [slots, ← List.filterMap_eq_map, List.filterMap_filter]
  refine List.filterMap_congr fun x _ => ?_
  obtain ⟨⟨parameter, attachments⟩, number⟩ := x
  cases h : attachments.isZeroInput <;> simp [h]

/-- The slots of a proxy are numbered after the positions with input. -/
theorem map_number_slots {bridge : Bridge}
    (h : bridge.attachments.length = bridge.parameters.length) :
    (slots bridge).map (·.number - 1) = bridge.inputPositions := by
  have hnumbers := congrArg (List.map (· - 1)) (Bridge.map_snd_filter_zip h)
  rw [List.map_map, List.map_map] at hnumbers
  rw [slots_eq_map_filter, List.map_map]
  exact hnumbers.trans ((List.map_congr_left fun i _ => Nat.succ_sub_one i).trans (List.map_id _))

/-- A slot holds the parameter and the typemaps at its position. -/
theorem getElem?_of_mem_slots {bridge : Bridge} {slot : Slot} (h : slot ∈ slots bridge) :
    bridge.parameters[slot.number - 1]? = some slot.parameter ∧
      bridge.attachments[slot.number - 1]? = some slot.attachments := by
  rw [slots_eq_map_filter] at h
  obtain ⟨x, hx, rfl⟩ := List.mem_map.1 h
  have hzip := (List.mem_zipIdx_iff_le_and_getElem?_sub.1 (List.mem_of_mem_filter hx)).2
  exact List.getElem?_zip_eq_some.1 hzip

/-! ## Arguments and declarations -/

/-- The request for the code that passes a parameter. -/
def finRequest (location : Location) (parameter : Parameter) (attachments : Attachments) :
    Request where
  operation := "fin"
  type := parameter.type
  attached := attachments
  need := .required
  location := location

/-- The argument passes the parameter at a position: it is the parameter's code for `fin` with the
name of the dummy argument put in. What counts as the code is up to `IsCode`. -/
def Passes (IsCode : Request → String → Prop) (location : Location) (bridge : Bridge)
    (dummy : Nat × String) (argument : String) : Prop :=
  ∃ parameter attachments code, bridge.parameters[dummy.1]? = some parameter ∧
    bridge.attachments[dummy.1]? = some attachments ∧
    IsCode (finRequest location parameter attachments) code ∧
    argument = Text.substitute code [("$input", dummy.2)]

/-- The proxy takes and passes one argument for each parameter of the bridge with input, in order.
`names` are the names of its dummy arguments for the parameters. Each declaration is one line of its
source. -/
structure Agrees (IsCode : Request → String → Prop) (location : Location) (mode : ProxyMode)
    (bridge : Bridge) (names : List String) (proxy : Proxy) : Prop where
  length_names : names.length = bridge.inputPositions.length
  dummyArguments :
    proxy.routine.dummyArguments = (if mode = .constructor then ["self"] else []) ++ names
  length_callArguments : proxy.callArguments.length = bridge.inputPositions.length
  callArguments : List.Forall₂ (Passes IsCode location bridge)
    (bridge.inputPositions.zip names) proxy.callArguments
  declared_once : ∀ d ∈ proxy.routine.dummyArguments,
    (∃ type, (type, d) ∈ proxy.routine.declarations) ∧
      (proxy.routine.declarations.map (·.2.toLower)).count d.toLower = 1
  source : proxy.routine.render = Text.ofLines proxy.routine.lines

theorem dummyType_ensures {inv : LookupState → Prop} {request : Request}
    (h : Ensures inv (Lookup.code sources request) fun _ => True) (mode : ProxyMode)
    (className : Option String) (number : Nat) :
    Ensures inv (dummyType sources mode className request number) fun _ => True := by
  unfold dummyType
  split
  · exact .pure trivial
  · exact h

theorem fragments_ensures {slot : Slot} (htype : slot.parameter.type ∈ types)
    (location : Location) (mode : ProxyMode) (className : Option String) (name : String) :
    Ensures (Lookup.Leads sources types state)
      (fragments sources location mode className slot name) fun part => ∃ code,
        Lookup.Gives sources types state (finRequest location slot.parameter slot.attachments)
          code ∧ part.argument = Text.substitute code [("$input", name)] := by
  have hlines : ∀ operation, ':' ∉ operation.toList →
      Ensures (Lookup.Leads sources types state) (do
        let typemap ← Lookup.find sources
          { operation, type := slot.parameter.type, attached := slot.attachments,
            need := .optional, location }
        return typemap.elim [] fun t =>
          Text.codeLines (Text.substitute t.code [("$input", name)])) fun _ => True :=
    fun operation hop => (Lookup.find_leads hop htype).bind fun _ _ => .pure trivial
  unfold fragments
  refine (dummyType_ensures ((Lookup.code_leads (by decide) htype).mono fun _ _ => trivial)
    mode className slot.number).bind fun type _ => ?_
  refine (Lookup.code_leads (by decide) htype).bind fun code hcode => ?_
  refine (hlines "fpre" (by decide)).bind fun pre _ => ?_
  refine (hlines "fpost" (by decide)).bind fun post _ => ?_
  exact .pure ⟨code, hcode, rfl⟩

/-- The name of the result of a function, which a subroutine does not have. -/
def resultNames (isSubroutine : Bool) : List String :=
  if isSubroutine then [] else [Routine.resultName]

/-- The result is declared unless there is none. -/
theorem resultDeclaration_ensures {bridge : Bridge} (htype : bridge.result ∈ types)
    (location : Location) (isSubroutine : Bool) :
    Ensures (Lookup.Leads sources types state)
      (resultDeclaration sources bridge location isSubroutine) fun declared =>
        declared.map (·.2) = resultNames isSubroutine := by
  unfold resultDeclaration resultNames
  split
  · exact .pure rfl
  · exact (Lookup.code_leads (by decide) htype).bind fun type _ => .pure rfl

theorem bodyOperation_mem (bridge : Bridge) (mode : ProxyMode) :
    ':' ∉ (bodyOperation bridge mode).1.toList ∧
      (bodyOperation bridge mode).2 ∈ bridge.lookupTypes := by
  refine ⟨by cases mode <;> simp [bodyOperation], ?_⟩
  cases mode with
  | function => exact List.mem_cons_of_mem _ List.mem_cons_self
  | constructor => exact List.mem_cons_of_mem _ List.mem_cons_self
  | destructor =>
    unfold bodyOperation Bridge.lookupTypes
    cases bridge.parameters with
    | nil => exact List.mem_cons_self
    | cons p rest => simp

theorem length_dummyNames {bridge : Bridge}
    (h : bridge.attachments.length = bridge.parameters.length) (mode : ProxyMode)
    (routineName : String) :
    (dummyNames mode routineName (slots bridge)).length = bridge.inputPositions.length := by
  rw [dummyNames, ArgumentName.length_chooseAll, List.length_map, ← map_number_slots h,
    List.length_map]

/-- The names in front of those for the parameters are in lower case and different, and none of
them is free for a parameter. -/
theorem receiver_append_resultNames (mode : ProxyMode) (isSubroutine : Bool) :
    (receiver mode ++ resultNames isSubroutine).map String.toLower =
        receiver mode ++ resultNames isSubroutine ∧
      (receiver mode ++ resultNames isSubroutine).Nodup ∧
      ∀ name ∈ receiver mode ++ resultNames isSubroutine,
        name ∈ receiver mode ∨ name ∈ ArgumentName.reserved := by
  have hself : "self".toLower = "self" := Text.toLower_eq_self (by decide)
  have hresult : Routine.resultName.toLower = Routine.resultName :=
    Text.toLower_eq_self (by decide)
  have hne : "self" ≠ Routine.resultName := by decide
  have hreserved : Routine.resultName ∈ ArgumentName.reserved := by decide
  refine ⟨?_, ?_, ?_⟩
  · cases mode <;> cases isSubroutine <;> simp [receiver, resultNames, hself, hresult]
  · cases mode <;> cases isSubroutine <;> simp [receiver, resultNames, hne]
  · intro name hname
    refine (List.mem_append.1 hname).imp id fun h => ?_
    unfold resultNames at h
    split at h
    · cases h
    · exact List.mem_singleton.1 h ▸ hreserved

/-- No two of the declared names agree up to case. -/
theorem nodup_declared (mode : ProxyMode) (isSubroutine : Bool) (routineName : String)
    (slots : List Slot) :
    ((receiver mode ++ resultNames isSubroutine ++ dummyNames mode routineName slots).map
      String.toLower).Nodup := by
  obtain ⟨hlower, hnodup, hleading⟩ := receiver_append_resultNames mode isSubroutine
  rw [List.map_append, hlower, List.nodup_append]
  refine ⟨hnodup, ArgumentName.nodup_chooseAll _ _, ?_⟩
  rintro name hname _ hchosen rfl
  obtain ⟨chosen, hmem, rfl⟩ := List.mem_map.1 hchosen
  obtain ⟨hreserved, hused⟩ := ArgumentName.isFree_iff.1
    (ArgumentName.isFree_of_mem_chooseAll hmem)
  rcases hleading _ hname with h | h
  · exact hused (List.mem_append_left _ h)
  · exact hreserved h

/-- Of names that differ up to case each one is declared once. -/
theorem declared_once {declarations : List (String × String)} {names : List String}
    (hnames : declarations.map (·.2) = names) (hnodup : (names.map String.toLower).Nodup)
    {d : String} (hd : d ∈ names) :
    (∃ type, (type, d) ∈ declarations) ∧
      (declarations.map (·.2.toLower)).count d.toLower = 1 := by
  subst hnames
  obtain ⟨declaration, hmem, rfl⟩ := List.mem_map.1 hd
  rw [List.map_map] at hnodup
  exact ⟨⟨_, hmem⟩, List.count_eq_one_of_mem hnodup (List.mem_map.2 ⟨declaration, hmem, rfl⟩)⟩

theorem passes_ensures {bridge : Bridge} {slot : Slot} (h : slot ∈ slots bridge)
    (location : Location) (mode : ProxyMode) (className : Option String) (name : String) :
    Ensures (Lookup.Leads sources bridge.lookupTypes state)
      (fragments sources location mode className slot name) fun part =>
        Passes (Lookup.Gives sources bridge.lookupTypes state) location bridge
          (slot.number - 1, name) part.argument := by
  obtain ⟨hparameter, hattachments⟩ := getElem?_of_mem_slots h
  have htype : slot.parameter.type ∈ bridge.lookupTypes :=
    List.mem_cons_of_mem _ (List.mem_cons_of_mem _
      (List.mem_map.2 ⟨_, List.mem_of_getElem? hparameter, rfl⟩))
  refine (fragments_ensures htype location mode className name).mono ?_
  rintro part ⟨code, hcode, hargument⟩
  exact ⟨_, _, code, hparameter, hattachments, hcode, hargument⟩

/-- A proxy agrees with its bridge if its arguments come from the slots. -/
theorem agrees_of_forall₂ {IsCode : Request → String → Prop} {location : Location}
    {mode : ProxyMode} {bridge : Bridge} {proxy : Proxy} {routineName className : String}
    {isSubroutine : Bool} {result : List (String × String)} {parts : List Fragments}
    (hlength : bridge.attachments.length = bridge.parameters.length)
    (hresult : result.map (·.2) = resultNames isSubroutine)
    (hparts : List.Forall₂ (fun pair part =>
        Passes IsCode location bridge (pair.1.number - 1, pair.2) part.argument)
      ((slots bridge).zip (dummyNames mode routineName (slots bridge))) parts)
    (hdummies : proxy.routine.dummyArguments =
      receiver mode ++ dummyNames mode routineName (slots bridge))
    (hdeclarations : proxy.routine.declarations =
      (receiver mode).map (className, ·) ++ result ++
        (parts.map (·.type)).zip (dummyNames mode routineName (slots bridge)))
    (hcall : proxy.callArguments = parts.map (·.argument)) :
    proxy.Agrees IsCode location mode bridge (dummyNames mode routineName (slots bridge)) := by
  have hcount := length_dummyNames hlength mode routineName
  have hslots : (slots bridge).length = bridge.inputPositions.length := by
    rw [← map_number_slots hlength, List.length_map]
  have hparts_length : parts.length = bridge.inputPositions.length := by
    rw [← hparts.length_eq, List.length_zip, hcount, hslots, Nat.min_self]
  refine ⟨hcount, hdummies, ?_, ?_, ?_, proxy.routine.render_eq_ofLines⟩
  · rw [hcall, List.length_map, hparts_length]
  · rw [hcall, ← map_number_slots hlength, List.zip_map_left, List.forall₂_map_left_iff,
      List.forall₂_map_right_iff]
    exact hparts
  · have hnames : proxy.routine.declarations.map (·.2) = receiver mode ++
        resultNames isSubroutine ++ dummyNames mode routineName (slots bridge) := by
      have hreceiver : ((receiver mode).map (className, ·)).map (·.2) = receiver mode := by
        rw [List.map_map]
        exact List.map_id _
      have hle : (dummyNames mode routineName (slots bridge)).length ≤
          (parts.map (·.type)).length := by
        rw [List.length_map, hcount, hparts_length]
      rw [hdeclarations, List.map_append, List.map_append, hreceiver, hresult,
        List.map_snd_zip hle]
    intro d hd
    refine declared_once hnames (nodup_declared mode isSubroutine routineName (slots bridge)) ?_
    rw [hdummies] at hd
    rcases List.mem_append.1 hd with hd | hd
    · exact List.mem_append_left _ (List.mem_append_left _ hd)
    · exact List.mem_append_right _ hd

/-- Making a proxy gives one that agrees with its bridge about the arguments. -/
theorem make_ensures {bridge : Bridge}
    (hlength : bridge.attachments.length = bridge.parameters.length) (config : Config)
    (callable : Callable) (mode : ProxyMode) (owner : Option (Class × String)) :
    Ensures (Lookup.Leads sources bridge.lookupTypes state)
      (make sources config callable mode bridge owner) fun proxy => ∃ names,
        proxy.Agrees (Lookup.Gives sources bridge.lookupTypes state) callable.location mode bridge
          names := by
  obtain ⟨hop, htype⟩ := bodyOperation_mem bridge mode
  have hresultType : bridge.result ∈ bridge.lookupTypes :=
    List.mem_cons_of_mem _ List.mem_cons_self
  unfold make
  refine (resultDeclaration_ensures hresultType _ _).bind fun result hresult => ?_
  refine Ensures.bind (.mapM fun pair hp => passes_ensures (List.of_mem_zip hp).1 _ _ _ _)
    fun parts hparts => ?_
  refine (Lookup.code_leads hop htype).bind fun template _ => .pure ?_
  exact ⟨_, agrees_of_forall₂ hlength hresult hparts rfl rfl rfl⟩

end Proxy

end FortranBindings
