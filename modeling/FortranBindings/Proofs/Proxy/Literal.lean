import FortranBindings.Proofs.Bridge.Literal
import FortranBindings.Proofs.Proxy.Arguments

/-!
# Proxies without a `$`

A routine that calls a bridge is filled in with the names of its dummy arguments and with the call,
none of which has a `$` (`ArgumentName.allLiteral_chooseAll`). So no `$` is left in proxies and
finalizers (`Proxy.make_isLiteral`, `Proxy.makeFinalizer_isLiteral`).
-/

namespace FortranBindings

open Text

/-- No text of the choices for a module has a `$`. -/
structure Config.IsLiteral (config : Config) : Prop where
  moduleName : Text.IsLiteral config.moduleName
  wrapperPrefix : Text.IsLiteral config.wrapperPrefix
  proxyPrefix : Text.IsLiteral config.proxyPrefix
  imports : AllLiteral config.imports

/-! ## Routines -/

/-- No text in the routine has a `$`. -/
structure Routine.IsLiteral (routine : Routine) : Prop where
  name : Text.IsLiteral routine.name
  dummyArguments : AllLiteral routine.dummyArguments
  declarations : ∀ declared ∈ routine.declarations,
    Text.IsLiteral declared.1 ∧ Text.IsLiteral declared.2
  statements : AllLiteral routine.statements

/-- The source of the routine has no `$`. -/
theorem Routine.IsLiteral.isLiteral_render {routine : Routine} (h : routine.IsLiteral) :
    Text.IsLiteral routine.render := by
  have harguments : Text.IsLiteral (", ".intercalate routine.dummyArguments) :=
    isLiteral_listed h.dummyArguments
  have hdeclarations : Text.IsLiteral
      (String.join (routine.declarations.map fun d => d.1 ++ " :: " ++ d.2 ++ "\n")) := by
    refine isLiteral_join_map fun declared hd => ?_
    simp only [isLiteral_append, h.declarations declared hd, true_and, and_true]
    simp [Text.IsLiteral]
  have hstatements : Text.IsLiteral (indented "" routine.statements) :=
    isLiteral_indented (by simp [Text.IsLiteral]) h.statements
  unfold render resultName
  cases routine.isSubroutine with
  | true =>
    simp only [isLiteral_append, h.name, harguments, hdeclarations, hstatements, if_true,
      and_true]
    simp [Text.IsLiteral]
  | false =>
    simp only [isLiteral_append, h.name, harguments, hdeclarations, hstatements,
      Bool.false_eq_true, if_false, and_true]
    simp [Text.IsLiteral]

/-! ## Dummy arguments -/

namespace ArgumentName

/-- A name that Fortran admits has no `$`. -/
theorem isLiteral_of_isValid {name : String} (h : isValid name = true) : Text.IsLiteral name := by
  unfold Text.IsLiteral
  unfold isValid at h
  split at h
  · cases h
  · next c rest hname =>
    rw [hname, List.mem_cons, not_or]
    rw [Bool.and_eq_true, List.all_eq_true] at h
    refine ⟨fun hc => ?_, fun hmem => ?_⟩
    · exact absurd (hc ▸ h.1) (by decide)
    · exact absurd (h.2 _ hmem) (by decide)

theorem allLiteral_candidates (used : List String) (number : Nat) (name : String) :
    AllLiteral (candidates used number name) := by
  have hplain : Text.IsLiteral ("arg" ++ toString number) :=
    isLiteral_append.2 ⟨by simp [Text.IsLiteral], isLiteral_natToString number⟩
  have hnumbered : AllLiteral ((List.range (used.length + 1)).map fun k =>
      "arg" ++ toString number ++ "_" ++ toString (number + k)) := by
    refine List.forall_mem_map.2 fun k _ => ?_
    simp only [isLiteral_append, isLiteral_natToString, and_true]
    simp [Text.IsLiteral]
  unfold candidates
  simp only [allLiteral_append, allLiteral_cons, allLiteral_nil, hplain, hnumbered, and_true]
  split
  · next hvalid =>
    have hname := isLiteral_of_isValid hvalid
    simp only [allLiteral_cons, isLiteral_append, hname, isLiteral_natToString, allLiteral_nil,
      and_self]
  · exact allLiteral_nil

/-- **Names of dummy arguments have no `$`**, whatever the names of the parameters. -/
theorem allLiteral_chooseAll (used : List String) (names : List (Nat × String)) :
    AllLiteral (chooseAll used names) := by
  induction names generalizing used with
  | nil => exact allLiteral_nil
  | cons pair rest ih =>
    obtain ⟨number, name⟩ := pair
    refine allLiteral_cons.2 ⟨?_, ih _⟩
    unfold choose
    cases hfound : (candidates used number name).find? (isFree used) with
    | none => simp [Text.IsLiteral]
    | some chosen =>
      exact allLiteral_candidates used number name chosen (List.mem_of_find?_eq_some hfound)

end ArgumentName

namespace Proxy

variable {sources : Sources} {config : Config} {callable : Callable} {bridge : Bridge}
  {mode : ProxyMode} {className : Option String} {owner : Option (Class × String)}

theorem allLiteral_receiver (mode : ProxyMode) : AllLiteral (receiver mode) := by
  cases mode <;> simp [receiver, Text.IsLiteral]

theorem isLiteral_objectType (h : ∀ name ∈ className, Text.IsLiteral name) :
    Text.IsLiteral (objectType className) := by
  have hname : Text.IsLiteral (className.getD "") := by
    cases className with
    | none => simp [Text.IsLiteral]
    | some name => exact h name rfl
  simp only [objectType, isLiteral_append, hname, and_true]
  simp [Text.IsLiteral]

/-! ## Fragments -/

/-- No text that the templates of a parameter give has a `$`. -/
structure Fragments.IsLiteral (part : Fragments) : Prop where
  type : Text.IsLiteral part.type
  argument : Text.IsLiteral part.argument
  pre : AllLiteral part.pre
  post : AllLiteral part.post

theorem optionalLines_allLiteral (hs : sources.IsFillable) {request : Request}
    (h : request.IsFillable) (htokens : tokensOf request.mainOperation = ["$input"])
    {replacements : Replacements} (hreplacements : replacements.map (·.1) = ["$input"])
    (hvalues : ∀ pair ∈ replacements, Text.IsLiteral pair.2) :
    Ensures LookupState.IsReady (Lookup.find sources request >>= fun typemap =>
      (pure (typemap.elim [] fun t => codeLines (substitute t.code replacements)) : Lookup _))
      AllLiteral := by
  refine (Lookup.find_readyFor hs h).bind fun found hfound => .pure ?_
  exact ReadyFor.allLiteral_elim hfound (hreplacements.trans htokens.symm) hvalues

/-- The templates of a parameter give texts without a `$`. -/
theorem fragments_isLiteral (hs : sources.IsFillable) {slot : Slot}
    (h : slot.attachments.IsReady) (hclass : ∀ name ∈ className, Text.IsLiteral name)
    (location : Location) (mode : ProxyMode) {name : String} (hname : Text.IsLiteral name) :
    Ensures LookupState.IsReady (fragments sources location mode className slot name)
      Fragments.IsLiteral := by
  have hrequest : ∀ operation need, Request.IsFillable
      { operation, type := slot.parameter.type, attached := slot.attachments, need, location } :=
    fun _ _ => .of_operation h
  have hvalue : ∀ pair ∈ [("$input", name)], Text.IsLiteral pair.2 :=
    List.forall_mem_singleton.2 hname
  have htype : Ensures LookupState.IsReady
      (dummyType sources mode className
        { operation := "ftype", type := slot.parameter.type, attached := slot.attachments,
          need := .required, location } slot.number) Text.IsLiteral := by
    unfold dummyType
    split
    · exact .pure (isLiteral_objectType hclass)
    · exact (Lookup.code_readyFor hs (hrequest "ftype" .required)).mono fun code hcode =>
        hcode.isLiteral rfl
  unfold fragments
  refine htype.bind fun type htype => ?_
  refine (Lookup.code_readyFor hs (hrequest "fin" .required)).bind fun argument hargument => ?_
  refine (optionalLines_allLiteral hs (hrequest "fpre" .optional) rfl rfl hvalue).bind
    fun pre hpre => ?_
  refine (optionalLines_allLiteral hs (hrequest "fpost" .optional) rfl rfl hvalue).bind
    fun post hpost => .pure ?_
  refine ⟨htype, ?_, hpre, hpost⟩
  dsimp only
  exact hargument.isLiteral_substitute rfl hvalue

/-- A body with a call in it has no `$`. -/
theorem allLiteral_bodyLines {operation template result call owner : String}
    (h : ReadyFor operation template) (htokens : tokensOf operation = tokensOf "fout")
    (hresult : Text.IsLiteral result) (hcall : Text.IsLiteral call)
    (howner : Text.IsLiteral owner) : AllLiteral (bodyLines template result call owner) := by
  refine allLiteral_codeLines (isLiteral_withoutLeadingBlanks ?_)
  refine h.isLiteral_substitute htokens.symm ?_
  simp only [List.forall_mem_cons]
  exact ⟨hresult, hcall, howner, List.forall_mem_nil _⟩

theorem tokensOf_bodyOperation (bridge : Bridge) (mode : ProxyMode) :
    tokensOf (bodyOperation bridge mode).1 = tokensOf "fout" := by
  cases mode <;> rfl

/-! ## Making a proxy -/

theorem isLiteral_routineName (hconfig : config.IsLiteral) (h : callable.IsLiteral)
    {cls : Option Class} (hcls : ∀ c ∈ cls, c.IsLiteral) :
    Text.IsLiteral (routineName config callable cls) := by
  unfold routineName
  split
  · exact h.isLiteral_symbolIn nofun
  · simp only [isLiteral_append, hconfig.proxyPrefix, h.isLiteral_symbolIn hcls,
      h.isLiteral_overload, and_self]

theorem resultDeclaration_isLiteral (hs : sources.IsFillable) (bridge : Bridge)
    (location : Location) (isSubroutine : Bool) :
    Ensures LookupState.IsReady (resultDeclaration sources bridge location isSubroutine)
      fun declarations => ∀ declared ∈ declarations,
        Text.IsLiteral declared.1 ∧ Text.IsLiteral declared.2 := by
  have hnone : tokensOf ("ftype" ++ ":" ++ "out") = [] := by decide
  have hrequest : Request.IsFillable
      { operation := "ftype", suffix := some "out", type := bridge.result, need := .required,
        location } := .of_suffix hnone.symm Attachments.isReady_empty
  unfold resultDeclaration
  split
  · exact .pure nofun
  · refine (Lookup.code_readyFor hs hrequest).bind fun type htype => .pure ?_
    rw [List.forall_mem_singleton]
    exact ⟨htype.isLiteral hnone, by simp [Text.IsLiteral, Routine.resultName]⟩

/-- The typemaps of a parameter that appears in a proxy are those that the bridge has for it. -/
theorem isReady_of_mem_slots (hbridge : bridge.IsLiteral) {slot : Slot}
    (h : slot ∈ slots bridge) : slot.attachments.IsReady :=
  hbridge.attachments slot.attachments (List.mem_of_getElem? (getElem?_of_mem_slots h).2)

/-- The call of a bridge has no `$`. -/
theorem isLiteral_call (hbridge : bridge.IsLiteral) {arguments : List String}
    (h : AllLiteral arguments) :
    Text.IsLiteral (bridge.name ++ "(" ++ ", ".intercalate arguments ++ ")") := by
  have hname : Text.IsLiteral bridge.name := hbridge.wrapper.name
  have hlist : Text.IsLiteral (", ".intercalate arguments) :=
    isLiteral_listed h
  simp only [isLiteral_append, hname, hlist, true_and, and_true]
  simp [Text.IsLiteral]

/-- **The proxy of a literal declaration has no `$`.** -/
theorem make_isLiteral (hs : sources.IsFillable) (hconfig : config.IsLiteral)
    (h : callable.IsLiteral) (mode : ProxyMode) (hbridge : bridge.IsLiteral)
    (howner : ∀ o ∈ owner, o.1.IsLiteral ∧ Text.IsLiteral o.2) :
    Ensures LookupState.IsReady (make sources config callable mode bridge owner)
      fun proxy => proxy.routine.IsLiteral := by
  have hclass : ∀ name ∈ owner.map (·.2), Text.IsLiteral name := by
    intro name hname
    obtain ⟨o, ho, rfl⟩ := Option.map_eq_some_iff.1 hname
    exact (howner o ho).2
  have hname : Text.IsLiteral (routineName config callable (owner.map (·.1))) := by
    refine isLiteral_routineName hconfig h fun cls hcls => ?_
    obtain ⟨o, ho, rfl⟩ := Option.map_eq_some_iff.1 hcls
    exact (howner o ho).1
  let names := dummyNames mode (routineName config callable (owner.map (·.1))) (slots bridge)
  have hnames : AllLiteral names := ArgumentName.allLiteral_chooseAll _ _
  have hbody : Request.IsFillable
      { operation := (bodyOperation bridge mode).1, type := (bodyOperation bridge mode).2,
        need := .required, location := callable.location } :=
    .of_operation Attachments.isReady_empty
  unfold make
  refine (resultDeclaration_isLiteral hs bridge callable.location _).bind
    fun resultDeclaration hresult => ?_
  refine (Ensures.mapM_forall fun pair hpair => fragments_isLiteral hs
    (isReady_of_mem_slots hbridge (List.of_mem_zip hpair).1) hclass callable.location mode
    (hnames pair.2 (List.of_mem_zip hpair).2)).bind fun parts hparts => ?_
  refine (Lookup.code_readyFor hs hbody).bind fun template htemplate => .pure ?_
  have hcall := isLiteral_call hbridge
    (List.forall_mem_map.2 fun part hpart => (hparts part hpart).argument)
  have htemplate : ReadyFor (bodyOperation bridge mode).1 template := htemplate
  refine ⟨hname, allLiteral_append.2 ⟨allLiteral_receiver mode, hnames⟩, ?_, ?_⟩
  · refine List.forall_mem_append.2 ⟨List.forall_mem_append.2 ⟨?_, hresult⟩, ?_⟩
    · exact List.forall_mem_map.2 fun receiver hreceiver =>
        ⟨isLiteral_objectType hclass, allLiteral_receiver mode receiver hreceiver⟩
    · intro declared hdeclared
      obtain ⟨htype, hdummy⟩ := List.of_mem_zip hdeclared
      obtain ⟨part, hpart, heq⟩ := List.mem_map.1 htype
      exact ⟨heq ▸ (hparts part hpart).type, hnames declared.2 hdummy⟩
  · have howned : Text.IsLiteral (if callable.features.newObject then ".true." else ".false.") := by
      split <;> simp [Text.IsLiteral]
    have hresultName : ∀ isSubroutine : Bool,
        Text.IsLiteral (if isSubroutine then "" else Routine.resultName) := by
      intro isSubroutine
      cases isSubroutine <;> simp [Text.IsLiteral, Routine.resultName]
    simp only [allLiteral_append]
    refine ⟨⟨⟨⟨allLiteral_elim_codeLines h.prepend, ?_⟩, ?_⟩, ?_⟩,
      allLiteral_elim_codeLines h.append⟩
    · exact allLiteral_flatMap fun part hpart => (hparts part hpart).pre
    · exact allLiteral_bodyLines htemplate (tokensOf_bodyOperation bridge mode) (hresultName _)
        hcall howned
    · exact allLiteral_flatMap fun part hpart => (hparts part hpart).post

/-- **The finalizer of a class without a `$` has no `$`.** -/
theorem makeFinalizer_isLiteral (hs : sources.IsFillable) (hconfig : config.IsLiteral)
    (cls : Class) {className : String} (hclass : Text.IsLiteral className)
    (hbridge : bridge.IsLiteral) :
    Ensures LookupState.IsReady (makeFinalizer sources config cls className bridge)
      Routine.IsLiteral := by
  have hrequest : ∀ operation, Request.IsFillable
      { operation, type := cls.handle false, need := .required, location := cls.location } :=
    fun _ => .of_operation Attachments.isReady_empty
  unfold makeFinalizer
  refine (Lookup.code_readyFor hs (hrequest "fin")).bind fun argument hargument => ?_
  refine (Lookup.code_readyFor hs (hrequest "frelease")).bind fun template htemplate => .pure ?_
  have hargument : ReadyFor "fin" argument := hargument
  have htemplate : ReadyFor "frelease" template := htemplate
  have htokens : tokensOf "frelease" = tokensOf "fout" := by decide
  have hself : Text.IsLiteral "self" := by simp [Text.IsLiteral]
  have hvalue : ∀ pair ∈ [("$input", "self")], Text.IsLiteral pair.2 :=
    List.forall_mem_singleton.2 hself
  have hpassed : AllLiteral [substitute argument [("$input", "self")]] :=
    allLiteral_cons.2 ⟨hargument.isLiteral_substitute rfl hvalue, allLiteral_nil⟩
  have hcall := isLiteral_call hbridge hpassed
  rw [String.intercalate_singleton] at hcall
  refine ⟨?_, allLiteral_cons.2 ⟨hself, allLiteral_nil⟩, ?_, ?_⟩
  · simp only [isLiteral_append, hconfig.proxyPrefix, hclass, true_and, and_true]
    simp [Text.IsLiteral]
  · rw [List.forall_mem_singleton]
    simp only [isLiteral_append, hclass, hself, and_true]
    simp [Text.IsLiteral]
  · have hempty : Text.IsLiteral "" := by simp [Text.IsLiteral]
    have howned : Text.IsLiteral ".false." := by simp [Text.IsLiteral]
    dsimp only
    exact allLiteral_bodyLines htemplate htokens hempty hcall howned

end Proxy

end FortranBindings
