import FortranBindings.Proofs.Generator.PassedObjects
import FortranBindings.Proofs.Proxy.ArgumentSearch

/-!
# Dummy arguments

Whatever the parameters are called, the dummy arguments of a proxy have names that Fortran accepts
(`Routine.NamesArguments`): this is so for every bridge (`Generate.dummyArguments_usable`). They are
not compared with the other names that the routine refers to. So a parameter can have the name of
the bridge, of a type or of something in `ISO_C_BINDING`, and its dummy argument hides what has that
name (`Generate.dummyArguments_hide`). Names that are made up hide neither the bridge nor names from
`ISO_C_BINDING` nor placeholders (`Generate.dummyArguments_origin`).
-/

namespace FortranBindings

open Generate

/-- The routine has the names as dummy arguments, behind the object that a constructor fills, and
each of them can stand where it stands: it is a letter followed by letters, digits and underscores,
and it is neither reserved nor the name of the routine. No two dummy arguments agree up to case. -/
structure Routine.NamesArguments (mode : ProxyMode) (names : List String) (routine : Routine) :
    Prop where
  dummyArguments :
    routine.dummyArguments = (if mode = .constructor then ["self"] else []) ++ names
  nodup : (routine.dummyArguments.map String.toLower).Nodup
  valid : ∀ d ∈ names, ∃ first rest, d.toList = first :: rest ∧ first.isAlpha = true ∧
    ∀ c ∈ rest, c.isAlphanum = true ∨ c = '_'
  ne_reserved : ∀ d ∈ names, ∀ r ∈ ArgumentName.reserved, d.toLower ≠ r.toLower
  ne_name : ∀ d ∈ names, d.toLower ≠ routine.name.toLower

/-- Reserved names are in lower case. -/
theorem ArgumentName.toLower_of_mem_reserved {r : String} (h : r ∈ reserved) : r.toLower = r := by
  have hreserved : ∀ r ∈ reserved, r.toList.map Char.toLower = r.toList := by decide
  exact Text.toLower_eq_self (hreserved r h)

namespace Proxy

variable {sources : Sources} {mode : ProxyMode} {bridge : Bridge} {slots : List Slot} {d : String}

theorem isFree_of_mem_dummyNames {routineName : String}
    (h : d ∈ dummyNames mode routineName slots) :
    ArgumentName.isFree (receiver mode ++ [routineName.toLower]) d = true :=
  ArgumentName.isFree_of_mem_chooseAll h

/-- The name of a dummy argument was tried for the parameter of one of the slots. -/
theorem exists_attempt_of_mem_dummyNames {routineName : String}
    (h : d ∈ dummyNames mode routineName slots) :
    ∃ slot ∈ slots, ∃ i, d = ArgumentName.attempt slot.number slot.parameter.name i := by
  obtain ⟨_, hpair, i, hd⟩ := ArgumentName.exists_attempt_of_mem_chooseAll h
  obtain ⟨slot, hslot, rfl⟩ := List.mem_map.1 hpair
  exact ⟨slot, hslot, i, hd⟩

/-- The name of a parameter is kept if it is valid and free and no dummy argument in front of it
agrees with it up to case. -/
theorem getElem?_dummyNames {routineName : String} {i : Nat} {slot : Slot}
    (hslot : slots[i]? = some slot) (hvalid : ArgumentName.isValid slot.parameter.name = true)
    (hfree : ArgumentName.isFree (receiver mode ++ [routineName.toLower])
      slot.parameter.name = true)
    (hbefore : ∀ d ∈ (dummyNames mode routineName slots).take i,
      d.toLower ≠ slot.parameter.name.toLower) :
    (dummyNames mode routineName slots)[i]? = some slot.parameter.name := by
  have hpair : (slots.map fun slot => (slot.number, slot.parameter.name))[i]? =
      some (slot.number, slot.parameter.name) := by
    rw [List.getElem?_map, hslot]
    rfl
  exact ArgumentName.getElem?_chooseAll_of_isFree hpair hvalid hfree hbefore

theorem dummyArguments_make (config : Config) (callable : Callable) (mode : ProxyMode)
    (bridge : Bridge) (owner : Option (Class × String)) (state : LookupState) :
    ((make sources config callable mode bridge owner).run state).1.routine.dummyArguments =
      receiver mode ++
        dummyNames mode (routineName config callable (owner.map (·.1))) (Proxy.slots bridge) := by
  have hmake : Ensures (fun _ => True) (make sources config callable mode bridge owner)
      fun proxy => proxy.routine.dummyArguments = receiver mode ++
        dummyNames mode (routineName config callable (owner.map (·.1))) (Proxy.slots bridge) := by
    unfold make
    refine Ensures.always.bind fun result _ => Ensures.always.bind fun parts _ => ?_
    exact Ensures.always.bind fun template _ => .pure rfl
  exact (hmake state trivial).1

/-- **The names of dummy arguments can be used**, whatever bridge a proxy is made from. -/
theorem make_namesArguments (config : Config) (callable : Callable) (mode : ProxyMode)
    (bridge : Bridge) (owner : Option (Class × String)) (state : LookupState) :
    ((make sources config callable mode bridge owner).run state).1.routine.NamesArguments mode
      (dummyNames mode (routineName config callable (owner.map (·.1))) (Proxy.slots bridge)) := by
  have hdummies : ((make sources config callable mode bridge owner).run
      state).1.routine.dummyArguments = _ := dummyArguments_make ..
  have hname : ((make sources config callable mode bridge owner).run state).1.routine.name = _ :=
    name_make ..
  refine ⟨hdummies, ?_, ?_, ?_, ?_⟩
  · have hnodup := nodup_declared mode true
      (routineName config callable (owner.map (·.1))) (Proxy.slots bridge)
    rw [hdummies]
    rwa [resultNames, if_pos rfl, List.append_nil] at hnodup
  · exact fun d hd => ArgumentName.isValid_iff.1 (ArgumentName.isValid_of_mem_chooseAll hd)
  · intro d hd r hr heq
    rw [ArgumentName.toLower_of_mem_reserved hr] at heq
    exact (ArgumentName.isFree_iff.1 (isFree_of_mem_dummyNames hd)).1 (heq ▸ hr)
  · intro d hd heq
    rw [hname] at heq
    refine (ArgumentName.isFree_iff.1 (isFree_of_mem_dummyNames hd)).2 ?_
    exact List.mem_append_right _ (List.mem_singleton.2 heq)

end Proxy

namespace Generate

/-- **Dummy arguments are always usable.** For every parameter, whatever it is called and whatever
names are used, the search for a name ends: it comes to a name that is free, and the first such name
is chosen. A proxy is made for every callable and from every bridge, whatever was generated before.
Its dummy arguments are different without regard to case, and apart from the object that a
constructor fills each of them can be used as a name in Fortran. -/
theorem dummyArguments_usable (setup : Setup) (callable : Callable) (mode : ProxyMode)
    (bridge : Bridge) (opened : Option OpenClass) (state : GeneratorState) :
    (∀ used number name, ∃ i < used.length + 4,
      ArgumentName.choose used number name = ArgumentName.attempt number name i ∧
      ArgumentName.isFree used (ArgumentName.attempt number name i) = true ∧
      ∀ j < i, ArgumentName.isFree used (ArgumentName.attempt number name j) = false) ∧
    ∃ proxy next names,
      ((Generate.proxy setup callable mode bridge opened).run.run state).1 = .ok (proxy, next) ∧
      names.length = (Proxy.slots bridge).length ∧ proxy.routine.NamesArguments mode names := by
  obtain ⟨next, hrun⟩ := proxy_run callable mode bridge opened state
  refine ⟨ArgumentName.exists_choose_eq_attempt, _, next, _, hrun, ?_,
    Proxy.make_namesArguments ..⟩
  rw [Proxy.dummyNames, ArgumentName.length_chooseAll, List.length_map]

end Generate

/-! ## Names that the routine refers to -/

/-- A dummy argument of the routine agrees with the name up to case. In the routine the name then
stands for the dummy argument. -/
def Routine.Hides (routine : Routine) (name : String) : Prop :=
  ∃ d ∈ routine.dummyArguments, d.toLower = name.toLower

/-- The text stands in a type that the routine declares or in one of its statements. -/
def Routine.Mentions (routine : Routine) (text : String) : Prop :=
  ∃ line ∈ routine.declarations.map (·.1) ++ routine.statements, text.toList <:+: line.toList

namespace Proxy

/-- The names that a routine which calls the bridge can refer to, except for those that classes and
enums are declared with: the bridge itself, names from `ISO_C_BINDING`, all of which start with
`c_`, and placeholders. -/
inductive RefersTo (bridge : Bridge) : String → Prop
  | bridge : RefersTo bridge bridge.name
  | interoperable {name text : String} (h : name.toLower = ("c_" ++ text).toLower) :
    RefersTo bridge name
  | placeholder (type : CxxType) : RefersTo bridge (placeholderName type)

variable {bridge : Bridge} {name d : String}

/-- None of these names starts as the names do that are made up for dummy arguments. -/
theorem RefersTo.toLower_ne (h : RefersTo bridge name)
    (hbridge : ∃ text, bridge.name = "swigc_" ++ text) {first : String}
    (hfirst : first ∈ ["self", "arg"]) (text : String) :
    (first ++ text).toLower ≠ name.toLower := by
  obtain ⟨start, hstart, rest, hname⟩ : ∃ start ∈ ["swigc_", "c_", "SWIGTYPE_"], ∃ rest,
      name.toLower = (start ++ rest).toLower := by
    cases h with
    | bridge =>
      obtain ⟨rest, hrest⟩ := hbridge
      exact ⟨_, List.mem_cons_self, rest, congrArg _ hrest⟩
    | interoperable h => exact ⟨_, by decide, _, h⟩
    | placeholder type => exact ⟨_, by decide, _, rfl⟩
  have hapart : ∀ first ∈ ["self", "arg"], ∀ start ∈ ["swigc_", "c_", "SWIGTYPE_"],
      (2 ≤ first.toList.length ∧ 2 ≤ start.toList.length) ∧
        (first.toList.map Char.toLower).take 2 ≠ (start.toList.map Char.toLower).take 2 := by
    decide
  obtain ⟨hlength, hne⟩ := hapart first hfirst start hstart
  rw [hname]
  exact Text.toLower_append_ne hlength hne text rest

theorem one_le_number_of_mem_slots {slot : Slot} (h : slot ∈ slots bridge) : 1 ≤ slot.number := by
  rw [slots_eq_map_filter] at h
  obtain ⟨x, hx, rfl⟩ := List.mem_map.1 h
  exact (List.mem_zipIdx_iff_le_and_getElem?_sub.1 (List.mem_of_mem_filter hx)).1

/-- A dummy argument has the name of a parameter, by itself or with the parameter's number behind
it, or one that is made up. -/
theorem dummyNames_cases {mode : ProxyMode} {routineName : String}
    (h : d ∈ dummyNames mode routineName (slots bridge)) :
    (∃ (i : Nat) (parameter : Parameter), bridge.parameters[i]? = some parameter ∧
      (d = parameter.name ∨ d = parameter.name ++ toString (i + 1))) ∨
    ∃ text, d = "arg" ++ text := by
  obtain ⟨slot, hslot, k, rfl⟩ := exists_attempt_of_mem_dummyNames h
  have hparameter := (getElem?_of_mem_slots hslot).1
  have hnumber : slot.number - 1 + 1 = slot.number :=
    Nat.sub_add_cancel (one_le_number_of_mem_slots hslot)
  rcases ArgumentName.attempt_cases slot.number slot.parameter.name k with
    ⟨-, hown⟩ | hplain | ⟨l, hnumbered⟩
  · exact .inl ⟨_, _, hparameter, by rwa [hnumber]⟩
  · exact .inr ⟨_, hplain⟩
  · exact .inr ⟨_, hnumbered.trans (by rw [ArgumentName.numbered, String.append_assoc,
      String.append_assoc])⟩

end Proxy

namespace Generate

variable {decls : Declarations} {callable : Callable} {opened bound : Option OpenClass}
  {state next : GeneratorState}

/-- **Only names of parameters hide what the routine needs.** If a callable is generated with the
built-in table and the default configuration, one routine is added, whose dummy arguments are
usable. Each of them has the name of a parameter, by itself or with the parameter's number behind
it, or a name that is made up; and names that are made up hide neither the bridge that the routine
calls nor a name from `ISO_C_BINDING` nor a placeholder. The name of a parameter is compared with
nothing else: it is kept if it is valid and free and no dummy argument in front of it agrees with it
up to case. -/
theorem dummyArguments_origin
    (h : (function (.standard decls) callable opened).run.run state = (.ok bound, next)) :
    ∃ bridge routine names,
      IsBridgeOf (.standard decls) callable (opened.map OpenClass.cls) bridge ∧
      next.parts.routines = state.parts.routines ++ [routine] ∧
      routine.NamesArguments (.ofKind callable.kind) names ∧
      (∀ d ∈ routine.dummyArguments,
        (∃ (i : Nat) (parameter : Parameter),
          (callable.parametersIn (opened.map OpenClass.cls))[i]? = some parameter ∧
          (d = parameter.name ∨ d = parameter.name ++ toString (i + 1))) ∨
        ((d = "self" ∨ ∃ text, d = "arg" ++ text) ∧
          ∀ name, Proxy.RefersTo bridge name → d.toLower ≠ name.toLower)) ∧
      ∀ (i : Nat) (slot : Proxy.Slot), (Proxy.slots bridge)[i]? = some slot →
        ArgumentName.isValid slot.parameter.name = true →
        ArgumentName.isFree (Proxy.receiver (.ofKind callable.kind) ++ [routine.name.toLower])
          slot.parameter.name = true →
        (∀ d ∈ names.take i, d.toLower ≠ slot.parameter.name.toLower) →
        names[i]? = some slot.parameter.name := by
  obtain ⟨made, lookups, hmake, -, rfl, hmember, -⟩ := function_eq_ok h
  obtain ⟨middle, hbridge, -⟩ := make_eq_ok hmake
  have hisBridgeOf := isBridgeOf_of_make (isSome_of_constructor hmember) hbridge
  obtain ⟨final, hproxy⟩ := proxy?_of_make rfl hmake
  have hnames : ((Proxy.make (Setup.standard decls).sources (Setup.standard decls).config callable
      (.ofKind callable.kind) made.bridge (ownerOf opened)).run final).1.routine.NamesArguments
        (.ofKind callable.kind) _ := Proxy.make_namesArguments ..
  refine ⟨made.bridge, _, _, hisBridgeOf, ?_, hnames, ?_, ?_⟩
  · refine (ModuleParts.routines_adding hproxy).trans ?_
    rw [finalizer?_of_make rfl hmake]
    rfl
  · intro d hd
    have hprefix : ∃ text, made.bridge.name = "swigc_" ++ text :=
      ⟨_, hisBridgeOf.name.trans (String.append_assoc ..)⟩
    rw [hnames.dummyArguments] at hd
    rcases List.mem_append.1 hd with hself | hd
    · split at hself
      · obtain rfl := List.mem_singleton.1 hself
        have hmem : "self" ∈ ["self", "arg"] := List.mem_cons_self
        exact .inr ⟨.inl rfl, fun name hname => hname.toLower_ne hprefix hmem ""⟩
      · cases hself
    · rcases Proxy.dummyNames_cases hd with hparameter | ⟨text, rfl⟩
      · rw [hisBridgeOf.parameters] at hparameter
        exact .inl hparameter
      · have hmem : "arg" ∈ ["self", "arg"] := by decide
        exact .inr ⟨.inr ⟨text, rfl⟩, fun name hname => hname.toLower_ne hprefix hmem text⟩
  · intro i slot hslot hvalid hfree hbefore
    rw [Proxy.name_make] at hfree
    exact Proxy.getElem?_dummyNames hslot hvalid hfree hbefore

/-- The constructor of a class that is called as the object that it fills. -/
def newSelf : Callable where
  name := "Self"
  kind := .constructor

/-- The class with this constructor. -/
def selfClass : Class where
  name := "Self"
  members := [newSelf]

/-- A function whose parameters are called as what its proxy refers to. -/
def paint : Callable where
  name := "paint"
  kind := .freeFunction
  parameters := [
    { name := "brush", type := .builtin .int },
    { name := "Brush", type := .lvalueReference (.named "Brush2") },
    { type := .lvalueReference (.named "Arg3") },
    { name := "color", type := .named "Color" },
    { name := "c_int", type := .builtin .int },
    { name := "c_loc", type := .pointer (.builtin .double) },
    { name := "swigc_paint", type := .builtin .int }]

/-- A library with both. -/
def painting : Declarations where
  name := "painting"
  items := [.cls { name := "Brush2" }, .cls { name := "Arg3" },
    .enumeration { name := "Color", variants := [] }, .function paint, .cls selfClass]

/-- The proxy of the function. -/
def paintProxy : Routine where
  name := "paint"
  isSubroutine := true
  dummyArguments := ["brush", "Brush2", "arg3", "color", "c_int", "c_loc", "swigc_paint"]
  declarations := [
    ("integer(C_INT), intent(in)", "brush"),
    ("class(Brush2), intent(in)", "Brush2"),
    ("class(Arg3), intent(in)", "arg3"),
    ("integer(kind(Color)), intent(in)", "color"),
    ("integer(C_INT), intent(in)", "c_int"),
    ("real(C_DOUBLE), target, intent(inout)", "c_loc"),
    ("integer(C_INT), intent(in)", "swigc_paint")]
  statements := ["call swigc_paint(brush, Brush2%swigptr, arg3%swigptr, color, c_int, " ++
    "c_loc(c_loc), swigc_paint)"]

/-- The proxy of the constructor. -/
def selfProxy : Routine where
  name := "swigf_new_Self"
  isSubroutine := true
  dummyArguments := ["self"]
  declarations := [("class(Self), intent(inout)", "self")]
  statements := ["self%swigptr = swigc_new_Self()"]

theorem exists_run_paint : ∃ bound next,
    (function (.standard painting) paint none).run.run {} = (.ok bound, next) ∧
      next.bindings.map Binding.wrapper = ["swigc_paint"] ∧
      next.parts.routines = [paintProxy] := by
  obtain ⟨bound, next, hrun, -, hadds⟩ : ∃ bound next,
      (function (.standard painting) paint none).run.run {} = (.ok bound, next) ∧
        HasBound (.standard painting) paint none bound ∧
        Adds (.standard painting) paint none {} next :=
    function_of_free nofun fun _ => rfl
  have hroutines : ((function (.standard painting) paint none).run.run {}).2.parts.routines =
      [paintProxy] := by
    rw [Setup.standard, Sources.builtin_eq]
    decide +kernel
  have hwrapper : wrapperName (.standard painting) paint none = "swigc_paint" := by
    decide +kernel
  rw [hrun] at hroutines
  refine ⟨bound, next, hrun, ?_, hroutines⟩
  rw [hadds.bindings]
  exact congrArg ([·]) hwrapper

/-- **Dummy arguments may hide what the routine refers to**: the bridge that it calls, the types of
dummy arguments, and what it takes from `ISO_C_BINDING`. -/
theorem dummyArguments_hide :
    (∃ bound next, (function (.standard painting) paint none).run.run {} = (.ok bound, next) ∧
      next.bindings.map Binding.wrapper = ["swigc_paint"] ∧
      next.parts.routines = [paintProxy] ∧
      ∀ use ∈ [("call swigc_paint(", "swigc_paint"), ("class(Brush2)", "Brush2"),
          ("class(Arg3)", "Arg3"), ("kind(Color)", "Color"), ("integer(C_INT)", "C_INT"),
          ("c_loc(", "c_loc")],
        paintProxy.Mentions use.1 ∧ paintProxy.Hides use.2) ∧
    ((function (.standard painting) newSelf
        (some { cls := selfClass, name := "Self" })).run.run {}).2.parts.routines = [selfProxy] ∧
      selfProxy.Mentions "class(Self)" ∧ selfProxy.Hides "Self" := by
  obtain ⟨bound, next, hrun, hwrapper, hroutines⟩ := exists_run_paint
  have huses : ∀ use ∈ [("call swigc_paint(", "swigc_paint"), ("class(Brush2)", "Brush2"),
        ("class(Arg3)", "Arg3"), ("kind(Color)", "Color"), ("integer(C_INT)", "C_INT"),
        ("c_loc(", "c_loc")],
      (∃ line ∈ paintProxy.declarations.map (·.1) ++ paintProxy.statements,
        use.1.toList <:+: line.toList) ∧
      ∃ d ∈ paintProxy.dummyArguments,
        d.toList.map Char.toLower = use.2.toList.map Char.toLower := by
    decide +kernel
  have hself : ((function (.standard painting) newSelf
      (some { cls := selfClass, name := "Self" })).run.run {}).2.parts.routines =
        [selfProxy] := by
    rw [Setup.standard, Sources.builtin_eq]
    decide +kernel
  refine ⟨⟨bound, next, hrun, hwrapper, hroutines, fun use huse => ?_⟩, hself,
    ⟨_, List.mem_cons_self, by decide⟩, "self", List.mem_cons_self, ?_⟩
  · obtain ⟨hmentions, d, hd, hlower⟩ := huses use huse
    exact ⟨hmentions, d, hd, Text.toLower_eq_of_map hlower⟩
  · exact Text.toLower_eq_of_map (by decide)

theorem dummyArguments_origin_paint :
    ∃ (bound : Option OpenClass) (next : GeneratorState) (bridge : Bridge) (routine : Routine),
      (function (.standard painting) paint none).run.run {} = (.ok bound, next) ∧
      bridge.name = "swigc_paint" ∧ next.parts.routines = [routine] ∧
      "swigc_paint" ∈ routine.dummyArguments ∧
      ∃ (i : Nat) (parameter : Parameter), paint.parameters[i]? = some parameter ∧
        ("swigc_paint" = parameter.name ∨ "swigc_paint" = parameter.name ++ toString (i + 1)) := by
  obtain ⟨bound, next, hrun, -, hroutines⟩ := exists_run_paint
  obtain ⟨bridge, routine, names, hbridge, hadded, -, horigin, -⟩ := dummyArguments_origin hrun
  obtain rfl : paintProxy = routine :=
    List.singleton_injective (hroutines.symm.trans hadded)
  have hwrapper : wrapperName (.standard painting) paint none = "swigc_paint" := by
    decide +kernel
  have hname : bridge.name = "swigc_paint" := hbridge.name.trans hwrapper
  have hdummy : "swigc_paint" ∈ paintProxy.dummyArguments := by decide
  refine ⟨bound, next, bridge, paintProxy, hrun, hname, hroutines, hdummy, ?_⟩
  rcases horigin _ hdummy with hparameter | ⟨-, hapart⟩
  · exact hparameter
  · exact absurd (congrArg _ hname.symm) (hapart _ .bridge)

end Generate

end FortranBindings
