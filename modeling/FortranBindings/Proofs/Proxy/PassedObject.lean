import FortranBindings.Proofs.Generator.Settled
import FortranBindings.Proofs.Template.Handles

/-!
# The passed object

A routine that is bound in a derived type is called on an object of this type, which Fortran passes
as the first argument. The proxies of all members are made for that: their first dummy argument is
`self`, and it is declared as an object of the derived type (`Routine.TakesObject`,
`Proxy.make_takesObject`). For constructors and destructors this is so by the way they are made; for
the other members `self` is a parameter of the bridge like any other, for which the type and the
name are found as for other parameters (`Proxy.declaredType`, `Proxy.dummyNames_of_self`).
-/

namespace FortranBindings

variable {sources : Sources}

/-! ## Typemaps for `in` -/

/-- The typemaps of a parameter together with the one found for `in`, without any history. -/
def Parameter.attachments (sources : Sources) (location : Location) (parameter : Parameter) :
    Attachments :=
  if parameter.typemaps.contains "in" then parameter.typemaps
  else
    match Lookup.answer? sources
      { operation := "in", type := parameter.type, need := .required, location } with
    | some typemap => parameter.typemaps.insert "in" typemap
    | none => parameter.typemaps

theorem Lookup.attach_eq {parameter : Parameter} (h : parameter.type.IsSpelled)
    (location : Location) : Ensures (LookupState.Sound sources)
      (attach sources "in" .required location parameter)
      (· = parameter.attachments sources location) := by
  unfold attach Parameter.attachments
  split
  · exact .pure rfl
  · refine (find_ensures (Request.isPlain_mk (by decide) h)).bind fun found hfound => ?_
    rw [← hfound]
    cases found <;> exact .pure rfl

/-- The typemaps of the parameters of a bridge are found without any history. -/
theorem Bridge.make_attachments {callable : Callable} {owner : Option Class}
    (h : callable.IsSpelled) (ho : ∀ cls ∈ owner, cls.HasPlainName) (name : String) :
    EnsuresOk (LookupState.Sound sources) (make sources callable owner name) fun bridge =>
      bridge.attachments =
        (callable.parametersIn owner).map (·.attachments sources callable.location) := by
  have hsound {α : Type} {m : Lookup α} (hm : Lookup.Asks sources (Asked callable owner) m) :
      Ensures (LookupState.Sound sources) m fun _ => True :=
    hm.ensures fun request hr =>
      (Lookup.find_ensures (hr.isPlain h ho)).mono fun _ _ => trivial
  unfold make
  refine (EnsuresOk.lift (hsound (.code (.result (by decide) _)))).bind fun returnType _ => ?_
  refine (EnsuresOk.lift (Ensures.mapM_eq fun p hp =>
    Lookup.attach_eq (h.parametersIn ho p hp) _)).bind fun attachments hattachments => ?_
  refine (EnsuresOk.lift (hsound (.mapM fun slot hs => ?_))).bind fun cleanups _ => ?_
  · exact slot.optionalLines_asks (parameter_mem_of_mem_slotsOf hs) _ _ (by decide)
  refine (EnsuresOk.lift (hsound (.mapM fun slot hs => ?_))).bind fun parts _ => ?_
  · exact fragments_asks (parameter_mem_of_mem_slotsOf hs) _ _
  refine (EnsuresOk.liftExcept _).bind fun action _ => ?_
  refine (EnsuresOk.lift (hsound (outputLines_asks _ _))).bind fun output _ => ?_
  exact (EnsuresOk.lift (hsound (fortranResult_asks _ _))).bind fun _ _ => .pure hattachments

/-- A parameter without typemaps of its own has from the built-in table the one for `in`, which
takes an argument. -/
theorem Parameter.attachments_builtin {decls : Declarations} {parameter : Parameter}
    (h : parameter.typemaps = {}) (location : Location) :
    (parameter.attachments (.builtin decls) location).isZeroInput = false ∧
      (parameter.attachments (.builtin decls) location).find? "ftype" = none := by
  have hempty : ∀ operation, ({} : Attachments).find? operation = none := fun _ => rfl
  have hcontains : ({} : Attachments).contains "in" = false := rfl
  unfold attachments
  rw [h, hcontains, if_neg Bool.false_ne_true]
  split
  · next typemap htypemap =>
    have hinputs : typemap.numInputs = none := Lookup.numInputs_answer? rfl typemap htypemap
    have hop : "ftype" ≠ "in" := by decide
    simp [Attachments.isZeroInput, Dict.find?_insert, Typemap.isZeroInput, hinputs, hop, hempty]
  · exact ⟨rfl, rfl⟩

namespace Proxy

/-! ## Declarations -/

/-- The type that the dummy argument of a slot is declared with, without any history. -/
def declaredType (sources : Sources) (location : Location) (mode : ProxyMode)
    (className : Option String) (slot : Slot) : String :=
  if mode = .destructor ∧ slot.number = 1 then objectType className
  else
    ((Lookup.answer? sources
      { operation := "ftype", type := slot.parameter.type, attached := slot.attachments,
        need := .required, location }).map Typemap.code).getD ""

theorem fragments_declaredType {slot : Slot} (h : slot.parameter.type.IsSpelled)
    (location : Location) (mode : ProxyMode) (className : Option String) (name : String) :
    Ensures (LookupState.Sound sources)
      (fragments sources location mode className slot name) fun part =>
        part.type = declaredType sources location mode className slot := by
  have htype : Ensures (LookupState.Sound sources) (dummyType sources mode className
      { operation := "ftype", type := slot.parameter.type, attached := slot.attachments,
        need := .required, location } slot.number)
      (· = declaredType sources location mode className slot) := by
    unfold dummyType declaredType
    split
    · exact .pure rfl
    · exact (Lookup.find_ensures (Request.isPlain_mk (by decide) h)).bind fun found hfound =>
        .pure (by rw [hfound])
  have hlines : ∀ operation, ':' ∉ operation.toList → Ensures (LookupState.Sound sources) (do
      let typemap ← Lookup.find sources
        { operation, type := slot.parameter.type, attached := slot.attachments,
          need := .optional, location }
      return typemap.elim [] fun t =>
        Text.codeLines (Text.substitute t.code [("$input", name)])) fun _ => True := fun _ hop =>
    (Lookup.find_ensures (Request.isPlain_mk hop h)).bind fun _ _ => .pure trivial
  have hargument : Ensures (LookupState.Sound sources) (Lookup.code sources
      { operation := "fin", type := slot.parameter.type, attached := slot.attachments,
        need := .required, location }) fun _ => True :=
    (Lookup.find_ensures (Request.isPlain_mk (by decide) h)).bind fun _ _ => .pure trivial
  unfold fragments
  refine htype.bind fun type htype => hargument.bind fun argument _ => ?_
  refine (hlines "fpre" (by decide)).bind fun pre _ => ?_
  exact (hlines "fpost" (by decide)).bind fun post _ => .pure htype

/-- What the parts of a proxy declare is what their slots are declared with. -/
theorem zip_map_type {f : Slot → String} {slots : List Slot} {names : List String}
    {parts : List Fragments}
    (h : List.Forall₂ (fun pair part => part.type = f pair.1) (slots.zip names) parts) :
    (parts.map (·.type)).zip names = (slots.zip names).map fun pair => (f pair.1, pair.2) := by
  induction slots generalizing names parts with
  | nil =>
    cases h
    rfl
  | cons slot slots ih =>
    cases names with
    | nil => exact List.zip_nil_right
    | cons name names =>
      cases h with
      | cons hpart hrest =>
        rw [List.map_cons, List.zip_cons_cons, List.zip_cons_cons, List.map_cons, ih hrest, hpart]

/-- The routine has the names as dummy arguments behind the object that a constructor fills, and it
declares that object, the result, and the dummy argument of each slot with the type that is found
without any history. -/
structure Declares (sources : Sources) (location : Location) (mode : ProxyMode)
    (className : Option String) (slots : List Slot) (names : List String) (routine : Routine) :
    Prop where
  dummyArguments : routine.dummyArguments = receiver mode ++ names
  declarations : ∃ result, routine.declarations =
    (receiver mode).map (objectType className, ·) ++ result ++
      (slots.zip names).map fun pair =>
        (declaredType sources location mode className pair.1, pair.2)

/-- **What a proxy declares** does not depend on earlier lookups. -/
theorem make_declares {bridge : Bridge} (h : bridge.IsSpelled) (config : Config)
    (callable : Callable) (mode : ProxyMode) (owner : Option (Class × String)) :
    Ensures (LookupState.Sound sources) (make sources config callable mode bridge owner)
      fun proxy => Declares sources callable.location mode (owner.map (·.2)) (slots bridge)
        (dummyNames mode (routineName config callable (owner.map (·.1))) (slots bridge))
        proxy.routine := by
  have hsound {α : Type} {m : Lookup α} (hm : Lookup.Asks sources (Asked bridge mode) m) :
      Ensures (LookupState.Sound sources) m fun _ => True :=
    hm.ensures fun request hr => (Lookup.find_ensures (hr.isPlain h)).mono fun _ _ => trivial
  have hslots : ∀ slot ∈ slots bridge, slot.parameter.type.IsSpelled := fun slot hslot =>
    h.parameters _ (List.mem_of_getElem? (getElem?_of_mem_slots hslot).1)
  unfold make
  refine (hsound (resultDeclaration_asks _ _ _)).bind fun result _ => ?_
  refine Ensures.bind (.mapM fun pair hp => fragments_declaredType
    (hslots _ (List.of_mem_zip hp).1) _ _ _ _) fun parts hparts => ?_
  refine (hsound (.code (.body _))).bind fun template _ => .pure ⟨rfl, result, ?_⟩
  exact congrArg _ (zip_map_type hparts)

/-! ## The object -/

/-- The parameter that takes the object stands in front of the slots. -/
theorem slots_eq_cons {bridge : Bridge} {parameter : Parameter} {parameters : List Parameter}
    {typemaps : Attachments} {attachments : List Attachments}
    (hparameters : bridge.parameters = parameter :: parameters)
    (hattachments : bridge.attachments = typemaps :: attachments)
    (hinput : typemaps.isZeroInput = false) :
    ∃ rest, slots bridge = ⟨1, parameter, typemaps⟩ :: rest := by
  rw [slots, hparameters, hattachments, List.zip_cons_cons, List.zipIdx_cons, List.filterMap_cons]
  simp only [hinput, Bool.false_eq_true, if_false]
  exact ⟨_, rfl⟩

/-- The first dummy argument keeps the name `self`, unless the routine has this name. -/
theorem dummyNames_of_self {mode : ProxyMode} {routineName : String} {slot : Slot}
    {rest : List Slot} (hmode : mode ≠ .constructor) (hself : slot.parameter.name = "self")
    (hname : routineName.toLower ≠ "self") :
    ∃ others, dummyNames mode routineName (slot :: rest) = "self" :: others := by
  have hlower : "self".toLower = "self" := Text.toLower_eq_self (by decide)
  have hfree : ArgumentName.isFree [routineName.toLower] "self" = true := by
    rw [ArgumentName.isFree_iff, hlower, List.mem_singleton]
    exact ⟨by decide, Ne.symm hname⟩
  have hchosen : ArgumentName.choose [routineName.toLower] slot.number "self" = "self" :=
    ArgumentName.choose_of_isFree (by decide) hfree
  rw [dummyNames, receiver, if_neg hmode, List.nil_append, List.map_cons, hself,
    ArgumentName.chooseAll, hchosen]
  exact ⟨_, rfl⟩

end Proxy

/-- The routine takes the object that it is called on: its first dummy argument is `self`, which is
declared once, as an object of the derived type. Its source has one line for each declaration. -/
structure Routine.TakesObject (routine : Routine) (className intent : String) : Prop where
  first : routine.dummyArguments.head? = some "self"
  declared :
    ("class(" ++ className ++ "), intent(" ++ intent ++ ")", "self") ∈ routine.declarations
  once : (routine.declarations.map (·.2.toLower)).count "self" = 1
  source : routine.render = Text.ofLines routine.lines

/-- Can the proxy change which C++ object its own object stands for? -/
def ProxyMode.objectIntent : ProxyMode → String
  | function => "in"
  | constructor | destructor => "inout"

namespace Proxy

variable {decls : Declarations} {cls : Class} {callable : Callable} {bridge : Bridge}

theorem receiver_eq_nil {mode : ProxyMode} (h : mode ≠ .constructor) : receiver mode = [] :=
  if_neg h

/-- The parameter for the implicit object of a member. -/
def objectParameter (cls : Class) (isConst : Bool) : Parameter where
  name := "self"
  type := cls.handle isConst

/-- For a member with an implicit object the first slot takes it. -/
theorem exists_slots_of_hasSelf (hself : callable.kind.hasSelf = true)
    (hparameters : bridge.parameters = callable.parametersIn (some cls))
    (hattachments : bridge.attachments =
      bridge.parameters.map (·.attachments (.builtin decls) callable.location)) :
    ∃ typemaps rest, slots bridge =
        ⟨1, objectParameter cls callable.kind.selfIsConst, typemaps⟩ :: rest ∧
      typemaps.find? "ftype" = none := by
  have hfirst : callable.parametersIn (some cls) =
      objectParameter cls callable.kind.selfIsConst :: callable.parameters := by
    simp only [Callable.parametersIn, hself, if_true]
    rfl
  rw [hfirst] at hparameters
  rw [hparameters, List.map_cons] at hattachments
  obtain ⟨hinput, hftype⟩ :
      ((objectParameter cls callable.kind.selfIsConst).attachments (.builtin decls)
        callable.location).isZeroInput = false ∧
      ((objectParameter cls callable.kind.selfIsConst).attachments (.builtin decls)
        callable.location).find? "ftype" = none :=
    Parameter.attachments_builtin rfl callable.location
  obtain ⟨rest, hslots⟩ := slots_eq_cons hparameters hattachments hinput
  exact ⟨_, rest, hslots, hftype⟩

theorem objectType_some (className : String) :
    objectType (some className) = "class(" ++ className ++ "), intent(" ++ "inout" ++ ")" := by
  have hintent : "), intent(inout)" = "), intent(" ++ "inout" ++ ")" := by decide
  rw [objectType, hintent]
  simp only [String.append_assoc]
  rfl

/-- The slot for the object is declared as one of the derived type. -/
theorem declaredType_of_object (h : decls.NamesClass cls) (isConst : Bool)
    {typemaps : Attachments} (hftype : typemaps.find? "ftype" = none) {mode : ProxyMode}
    (hmode : mode ≠ .constructor) (location : Location) :
    declaredType (.builtin decls) location mode (some cls.publicName)
        ⟨1, objectParameter cls isConst, typemaps⟩ =
      "class(" ++ cls.publicName ++ "), intent(" ++ mode.objectIntent ++ ")" := by
  unfold declaredType objectParameter
  cases mode with
  | constructor => exact absurd rfl hmode
  | destructor =>
    rw [if_pos ⟨rfl, rfl⟩]
    exact objectType_some cls.publicName
  | function =>
    have hintent : "), intent(in)" = "), intent(" ++ "in" ++ ")" := by decide
    rw [if_neg fun h => ProxyMode.noConfusion h.1, Lookup.answer?_handle h isConst hftype, hintent]
    simp only [String.append_assoc]
    rfl

namespace Declares

variable {routine : Routine}

/-- The proxy of a constructor has the object in front. -/
theorem object_of_constructor {location : Location} {className : String} {slots : List Slot}
    {names : List String}
    (h : Declares sources location .constructor (some className) slots names routine) :
    routine.dummyArguments.head? = some "self" ∧
      ("class(" ++ className ++ "), intent(" ++ "inout" ++ ")", "self") ∈
        routine.declarations := by
  obtain ⟨result, hdeclarations⟩ := h.declarations
  rw [h.dummyArguments, hdeclarations, objectType_some]
  exact ⟨rfl, List.mem_append_left _ (List.mem_append_left _ List.mem_cons_self)⟩

/-- A proxy whose first slot is for the object has it in front. -/
theorem object_of_slot (hcls : decls.NamesClass cls) {location : Location} {mode : ProxyMode}
    (hmode : mode ≠ .constructor) {isConst : Bool} {typemaps : Attachments}
    (hftype : typemaps.find? "ftype" = none) {slots : List Slot} {names : List String}
    (h : Declares (.builtin decls) location mode (some cls.publicName)
      (⟨1, objectParameter cls isConst, typemaps⟩ :: slots) ("self" :: names) routine) :
    routine.dummyArguments.head? = some "self" ∧
      ("class(" ++ cls.publicName ++ "), intent(" ++ mode.objectIntent ++ ")", "self") ∈
        routine.declarations := by
  obtain ⟨result, hdeclarations⟩ := h.declarations
  rw [h.dummyArguments, hdeclarations, receiver_eq_nil hmode, List.zip_cons_cons, List.map_cons,
    declaredType_of_object hcls isConst hftype hmode]
  exact ⟨rfl, List.mem_append_right _ List.mem_cons_self⟩

/-- The proxy of a member has the object in front, which it declares as one of the derived type. -/
theorem object (hcls : decls.NamesClass cls) (hmember : callable.kind.isMember = true)
    (hparameters : bridge.parameters = callable.parametersIn (some cls))
    (hattachments : bridge.attachments =
      bridge.parameters.map (·.attachments (.builtin decls) callable.location))
    {name : String} (hname : name.toLower ≠ "self")
    (h : Declares (.builtin decls) callable.location (.ofKind callable.kind) (some cls.publicName)
      (slots bridge) (dummyNames (.ofKind callable.kind) name (slots bridge)) routine) :
    routine.dummyArguments.head? = some "self" ∧
      ("class(" ++ cls.publicName ++ "), intent(" ++
        (ProxyMode.ofKind callable.kind).objectIntent ++ ")", "self") ∈ routine.declarations := by
  by_cases hconstructor : callable.kind = .constructor
  · rw [hconstructor] at h ⊢
    exact h.object_of_constructor
  · have hself : callable.kind.hasSelf = true := by
      revert hmember hconstructor
      cases callable.kind <;> simp [CallableKind.isMember, CallableKind.hasSelf]
    have hmode : ProxyMode.ofKind callable.kind ≠ .constructor := by
      revert hconstructor
      cases callable.kind <;> simp [ProxyMode.ofKind]
    obtain ⟨typemaps, rest, hslots, hftype⟩ :=
      exists_slots_of_hasSelf hself hparameters hattachments
    obtain ⟨others, hothers⟩ : ∃ others,
        dummyNames (.ofKind callable.kind) name (slots bridge) = "self" :: others :=
      hslots ▸ dummyNames_of_self hmode rfl hname
    rw [hothers, hslots] at h
    exact h.object_of_slot hcls hmode hftype

end Declares

/-- The name that the proxy of a member has by default is not `self`. -/
theorem toLower_routineName_ne_self (callable : Callable) (cls : Class) :
    (routineName {} callable (some cls)).toLower ≠ "self" := by
  intro h
  have hsecond := congrArg (·.toList[1]?) h
  simp [routineName, Text.toList_toLower] at hsecond

/-- **The proxy of a member takes the object** that it is called on, whatever the parameters of the
member are called and whatever typemaps they have. -/
theorem make_takesObject (h : decls.NamesClass cls) (hmember : callable.kind.isMember = true)
    (hspelled : bridge.IsSpelled)
    (hparameters : bridge.parameters = callable.parametersIn (some cls))
    (hattachments : bridge.attachments =
      bridge.parameters.map (·.attachments (.builtin decls) callable.location)) {config : Config}
    (hname : (routineName config callable (some cls)).toLower ≠ "self") :
    Ensures (LookupState.Sound (.builtin decls)) (make (.builtin decls) config callable
      (.ofKind callable.kind) bridge (some (cls, cls.publicName))) fun proxy =>
        proxy.routine.TakesObject cls.publicName (ProxyMode.ofKind callable.kind).objectIntent := by
  intro state hs
  obtain ⟨hdeclares, hnext⟩ := make_declares hspelled config callable (.ofKind callable.kind)
    (some (cls, cls.publicName)) state hs
  obtain ⟨hfirst, hdeclared⟩ := hdeclares.object h hmember hparameters hattachments hname
  have hlength : bridge.attachments.length = bridge.parameters.length := by
    rw [hattachments, List.length_map]
  have hagrees : Ensures (Lookup.Leads (.builtin decls) bridge.lookupTypes state)
      (make (.builtin decls) config callable (.ofKind callable.kind) bridge
        (some (cls, cls.publicName))) fun proxy => ∃ names, proxy.Agrees _ _ _ bridge names :=
    make_ensures hlength config callable _ _
  obtain ⟨⟨names, hnames⟩, -⟩ := hagrees state .refl
  have hlower : "self".toLower = "self" := Text.toLower_eq_self (by decide)
  have honce := (hnames.declared_once _ (List.mem_of_mem_head? hfirst)).2
  rw [hlower] at honce
  exact ⟨⟨hfirst, hdeclared, honce, Routine.render_eq_ofLines _⟩, hnext⟩

end Proxy
end FortranBindings
