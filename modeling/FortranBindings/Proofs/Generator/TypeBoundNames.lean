import FortranBindings.Proofs.Generator.Description
import FortranBindings.Proofs.Proxy.BindingName

/-!
# The names bound in a derived type

The procedures and the generic names that are bound in the derived type of a class stand in one
scope. They are those of the members that were not left out, each made by the rule for its member
(`Generate.HasBindings`). No table holds them: what is compared is the name of the wrapper. So two
members by the same rule have names of their own unless something was given for them, and the fixed
rules are kept apart by what their names start with (`Generate.boundNames_apart`). Other names may
meet (`Generate.boundNames_meet`).
-/

namespace FortranBindings

/-- The names bound in a derived type: those of procedures and generic ones. -/
def OpenClass.boundNames (opened : OpenClass) : List String :=
  opened.procedures.map ProcedureBinding.name ++ opened.overloads.names

/-- The names bound in a definition of a type. -/
def TypeBlock.boundNames : TypeBlock → List String
  | derived cls _ => cls.boundNames
  | _ => []

/-- Lookups report errors of no kind. -/
theorem LookupState.Extends.count_eq {state next : LookupState} (h : state.Extends next)
    {kind : DiagnosticKind} (hkind : kind.isError = true) :
    Diagnostic.count kind next.diagnostics = Diagnostic.count kind state.diagnostics := by
  have hcount : ∀ diagnostics : List Diagnostic, Diagnostic.count kind diagnostics =
      Diagnostic.count kind (diagnostics.filter (·.kind.isError)) := by
    intro diagnostics
    rw [Diagnostic.count, Diagnostic.count, List.countP_filter]
    refine List.countP_congr fun diagnostic _ => ?_
    simp only [decide_eq_true_eq, Bool.and_eq_true]
    exact ⟨fun heq => ⟨heq, by rwa [heq]⟩, And.left⟩
  rw [hcount, h.errors, ← hcount]

namespace Generate

variable {setup : Setup} {cls : Class} {accepted : List Callable} {callable : Callable}
  {opened bound : OpenClass} {state next : GeneratorState}

/-! ## Bindings of members -/

/-- The procedure that is bound for a member of a class. -/
def memberBinding (setup : Setup) (cls : Class) (callable : Callable) : ProcedureBinding where
  isPrivate := callable.isOverloaded
  name := callable.procedureName
  routine := Proxy.routineName setup.config callable (some cls)

/-- What is bound in a class are the procedures of some members and, for the overloaded ones among
them, the names that they are called by. -/
structure HasBindings (setup : Setup) (cls : Class) (accepted : List Callable)
    (opened : OpenClass) : Prop where
  cls_eq : opened.cls = cls
  procedures : opened.procedures = accepted.map (memberBinding setup cls)
  generics : ∀ name, name ∈ opened.overloads.names ↔
    ∃ callable ∈ accepted, callable.isOverloaded = true ∧ callable.memberName = name
  nodup_generics : opened.overloads.names.Nodup

/-- Binding a member adds one procedure. -/
theorem bindMember_procedures (callable : Callable) (routine : String) (opened : OpenClass) :
    (bindMember callable (.ofKind callable.kind) routine opened).procedures =
      opened.procedures ++ [⟨callable.isOverloaded, callable.procedureName, routine⟩] := by
  unfold bindMember Callable.procedureName Callable.isOverloaded
  cases callable.overload <;> rfl

/-- Binding a member adds its procedure to a group if it is overloaded. -/
theorem bindMember_overloads (callable : Callable) (routine : String) (opened : OpenClass) :
    (bindMember callable (.ofKind callable.kind) routine opened).overloads =
      if callable.isOverloaded then
        opened.overloads.record callable.memberName callable.procedureName
      else opened.overloads := by
  unfold bindMember Callable.procedureName Callable.isOverloaded
  cases callable.overload <;> rfl

theorem withMember_procedures (hproxies : setup.config.proxyClasses = true) :
    (withMember setup opened callable).procedures =
      opened.procedures ++ [memberBinding setup opened.cls callable] := by
  rw [withMember, if_pos hproxies]
  exact bindMember_procedures ..

theorem withMember_overloads (hproxies : setup.config.proxyClasses = true) :
    (withMember setup opened callable).overloads = if callable.isOverloaded then
      opened.overloads.record callable.memberName callable.procedureName else opened.overloads := by
  rw [withMember, if_pos hproxies]
  exact bindMember_overloads ..

namespace HasBindings

theorem initial (setup : Setup) (cls : Class) :
    HasBindings setup cls [] { cls, name := cls.publicName } :=
  ⟨rfl, rfl, fun _ => by simp [Registry.names], List.nodup_nil⟩

/-- Binding one more member. -/
theorem added (hproxies : setup.config.proxyClasses = true)
    (h : HasBindings setup cls accepted opened)
    (hbound : HasBound setup callable (some opened) (some bound)) :
    HasBindings setup cls (accepted ++ [callable]) bound := by
  have howner := hbound.ownerOf
  obtain ⟨finalizer, heq⟩ := hbound
  obtain rfl := Option.some.inj heq
  refine ⟨?_, ?_, fun name => ?_, ?_⟩
  · exact (congrArg Prod.fst (Option.some.inj howner)).trans h.cls_eq
  · refine (withMember_procedures hproxies).trans ?_
    rw [h.procedures, h.cls_eq, List.map_append]
    rfl
  · show name ∈ (withMember setup opened callable).overloads.names ↔ _
    rw [withMember_overloads hproxies]
    cases hoverloaded : callable.isOverloaded with
    | true => simp [Overloads.mem_names_record, h.generics, hoverloaded, or_and_right, exists_or]
    | false => simp [h.generics, hoverloaded, or_and_right, exists_or]
  · show (withMember setup opened callable).overloads.names.Nodup
    rw [withMember_overloads hproxies]
    split
    · exact Overloads.nodup_names_record h.nodup_generics _ _
    · exact h.nodup_generics

/-- A name is bound if and only if one of the members is bound under it. -/
theorem mem_boundNames (h : HasBindings setup cls accepted opened) {name : String} :
    name ∈ opened.boundNames ↔
      ∃ callable ∈ accepted, ∃ rule, (rule, name) ∈ callable.boundAs := by
  rw [OpenClass.boundNames, List.mem_append, h.procedures, h.generics, List.map_map]
  constructor
  · rintro (hprocedure | ⟨callable, hmem, hoverloaded, rfl⟩)
    · obtain ⟨callable, hmem, rfl⟩ := List.mem_map.1 hprocedure
      exact ⟨callable, hmem, callable.procedureRule, List.mem_cons_self⟩
    · refine ⟨callable, hmem, callable.namingRule, List.mem_cons_of_mem _ ?_⟩
      rw [if_pos hoverloaded]
      exact List.mem_singleton_self _
  · rintro ⟨callable, hmem, rule, hbound⟩
    rcases List.mem_cons.1 hbound with hprocedure | hgeneric
    · exact .inl (List.mem_map.2 ⟨callable, hmem, (Prod.mk.inj hprocedure).2.symm⟩)
    · split at hgeneric
      · next hoverloaded =>
        obtain ⟨-, rfl⟩ := Prod.mk.inj (List.mem_singleton.1 hgeneric)
        exact .inr ⟨callable, hmem, hoverloaded, rfl⟩
      · cases hgeneric

end HasBindings

/-! ## Members that are bound -/

/-- The wrappers of two callables do not have the same name, unless one of them is overloaded. -/
def WrappersDiffer (setup : Setup) (cls : Class) (callable other : Callable) : Prop :=
  callable.isOverloaded = false → other.isOverloaded = false →
    wrapperName setup callable (some cls) ≠ wrapperName setup other (some cls)

/-- The members `past` of a class were gone through since the state `start`, and those among them
that were not left out are bound. -/
structure Accepts (setup : Setup) (cls : Class) (start : GeneratorState)
    (past accepted : List Callable) (opened : OpenClass) (state : GeneratorState) : Prop where
  sublist : accepted.Sublist past
  bindings : HasBindings setup cls accepted opened
  wrappersDiffer : accepted.Pairwise (WrappersDiffer setup cls)
  taken : ∀ callable ∈ accepted, callable.isOverloaded = false →
    (state.place? (.wrapper (wrapperName setup callable (some cls)))).isSome
  types : state.parts.types = start.parts.types
  reported : Diagnostic.count .duplicateSymbol state.lookups.diagnostics + accepted.length =
    Diagnostic.count .duplicateSymbol start.lookups.diagnostics + past.length

namespace Accepts

variable {start : GeneratorState} {past : List Callable}

theorem initial (setup : Setup) (cls : Class) (start : GeneratorState) :
    Accepts setup cls start [] [] { cls, name := cls.publicName } start where
  sublist := .slnil
  bindings := .initial setup cls
  wrappersDiffer := .nil
  taken := List.forall_mem_nil _
  types := rfl
  reported := rfl

/-- A member that is left out is reported. -/
theorem refuse (h : Accepts setup cls start past accepted opened state) (callable : Callable)
    (name : String) (location previous : Location) :
    Accepts setup cls start (past ++ [callable]) accepted opened
      (state.refuse (.wrapper name) location previous) where
  sublist := h.sublist.trans (List.sublist_append_left ..)
  bindings := h.bindings
  wrappersDiffer := h.wrappersDiffer
  taken := h.taken
  types := h.types
  reported := by
    have hcount : Diagnostic.count .duplicateSymbol
        (state.refuse (.wrapper name) location previous).lookups.diagnostics =
          Diagnostic.count .duplicateSymbol state.lookups.diagnostics + 1 :=
      (List.countP_append ..).trans rfl
    have hreported := h.reported
    rw [List.length_append, List.length_singleton, hcount]
    omega

/-- A member is added if the name of its wrapper is free. -/
theorem added (hproxies : setup.config.proxyClasses = true)
    (h : Accepts setup cls start past accepted opened state)
    (hfree : callable.isOverloaded = false →
      state.functionSymbols.find? (wrapperName setup callable (some cls)) = none)
    (hbound : HasBound setup callable (some opened) (some bound))
    (hadds : Adds setup callable (some cls) state next) :
    Accepts setup cls start (past ++ [callable]) (accepted ++ [callable]) bound next where
  sublist := h.sublist.append (.refl _)
  bindings := h.bindings.added hproxies hbound
  wrappersDiffer := by
    refine List.pairwise_append.2 ⟨h.wrappersDiffer, List.pairwise_singleton .., ?_⟩
    intro other hother last hlast hplain hplain' heq
    obtain rfl := List.mem_singleton.1 hlast
    have htaken := h.taken other hother hplain
    rw [heq, GeneratorState.place?, hfree hplain'] at htaken
    cases htaken
  taken := by
    intro other hother hplain
    rw [hadds.place? hfree, Option.isSome_or, Bool.or_eq_true]
    rcases List.mem_append.1 hother with hother | hlast
    · exact .inl (h.taken other hother hplain)
    · obtain rfl := List.mem_singleton.1 hlast
      rw [Entry.name?_of_plain hplain, if_pos rfl]
      exact .inr rfl
  types := hadds.types.trans h.types
  reported := by
    have hcount : Diagnostic.count .duplicateSymbol next.lookups.diagnostics =
        Diagnostic.count .duplicateSymbol state.lookups.diagnostics :=
      hadds.lookups.count_eq rfl
    have hreported := h.reported
    rw [List.length_append, List.length_append, List.length_singleton, hcount]
    omega

end Accepts

/-- The members of an open class are gone through in order. -/
theorem members_accepts (hproxies : setup.config.proxyClasses = true) (cls : Class)
    (state : GeneratorState) : ∃ last next,
      (members setup cls cls.members { cls, name := cls.publicName }).run.run state =
        (.ok last, next) ∧
      ∃ accepted, Accepts setup cls state cls.members accepted last next := by
  refine members_run_past cls
    (fun past opened now => ∃ accepted, Accepts setup cls state past accepted opened now) ?_ ?_
    ⟨[], .initial setup cls state⟩
  · rintro past callable opened now name previous - - - ⟨accepted, h⟩
    exact ⟨accepted, h.refuse callable name _ previous⟩
  · rintro past callable opened bound now next hfree hbound hadds ⟨accepted, h⟩
    rw [h.bindings.cls_eq] at hfree hadds
    exact ⟨accepted ++ [callable], h.added hproxies hfree hbound hadds⟩

/-- A class with a name of its own is generated: its derived type binds the members that are not
left out. -/
theorem cls_accepts (hproxies : setup.config.proxyClasses = true)
    (hfree : state.classSymbols.find? cls.publicName = none) :
    ∃ next opened data accepted, (Generate.cls setup cls).run.run state = (.ok (), next) ∧
      next.parts.types = state.parts.types ++ [.derived opened data] ∧
      accepted.Sublist cls.members ∧ HasBindings setup cls accepted opened ∧
      accepted.Pairwise (WrappersDiffer setup cls) ∧
      Diagnostic.count .duplicateSymbol next.lookups.diagnostics + accepted.length =
        Diagnostic.count .duplicateSymbol state.lookups.diagnostics + cls.members.length := by
  obtain ⟨last, middle, hmembers, accepted, h⟩ := members_accepts hproxies cls
    { state with
      classSymbols := state.classSymbols.insert cls.publicName cls.location
      lookups := remarkBases cls state.lookups }
  obtain ⟨lookups, data, publics, hrun, hlookups⟩ := cls_run hfree hmembers
  refine ⟨_, last, data, accepted, hrun, ?_, h.sublist, h.bindings, h.wrappersDiffer, ?_⟩
  · rw [h.types, derivedTypes, if_pos hproxies]
  · rw [hlookups.count_eq rfl, h.reported,
      (remarkBases_extends cls state.lookups).count_eq rfl]

/-! ## Names that are kept apart -/

/-- Members by one rule that are named alone have different names if their wrappers have. -/
theorem memberName_ne_of_wrappersDiffer {other : Callable}
    (h : WrappersDiffer setup cls callable other) (hcallable : callable.IsNamedAlone)
    (hother : other.IsNamedAlone) (hrule : callable.namingRule = other.namingRule)
    (hrenamed : callable.namingRule ≠ .renamed) : callable.memberName ≠ other.memberName := by
  intro hname
  apply h hcallable.plain hother.plain
  rw [wrapperName, wrapperName, Callable.overload_eq_none hcallable.plain,
    Callable.overload_eq_none hother.plain, Callable.symbolIn_eq_of_memberName_eq
      hcallable.symbol hother.symbol hrule hrenamed hname]

/-- Which of the names differ that members are bound under. -/
structure NamesApart (accepted : List Callable) (opened : OpenClass) : Prop where
  /-- No two generic names are the same. -/
  generics : opened.overloads.names.Nodup
  /-- Members that follow one rule and are named alone have different names, unless these are given
  names of accessors. -/
  procedures : accepted.Pairwise fun callable other =>
    callable.IsNamedAlone → other.IsNamedAlone → callable.namingRule = other.namingRule →
      callable.namingRule ≠ .renamed → callable.procedureName ≠ other.procedureName
  /-- Variants of one name are told apart. -/
  variants : ∀ callable ∈ accepted, ∀ other ∈ accepted, callable.isOverloaded = true →
    other.isOverloaded = true → callable.bindingBase (.ofKind callable.kind) =
      other.bindingBase (.ofKind other.kind) → callable.overload ≠ other.overload →
        callable.procedureName ≠ other.procedureName
  /-- Names that follow different fixed rules differ, also if case is disregarded. -/
  fixed : ∀ callable ∈ accepted, ∀ other ∈ accepted, ∀ bound ∈ callable.boundAs,
    ∀ bound' ∈ other.boundAs, bound.1.isFixed = true → bound'.1.isFixed = true →
      bound.1 ≠ bound'.1 → bound.2.toLower ≠ bound'.2.toLower

theorem HasBindings.namesApart (h : HasBindings setup cls accepted opened)
    (hdiffer : accepted.Pairwise (WrappersDiffer setup cls)) : NamesApart accepted opened where
  generics := h.nodup_generics
  procedures := by
    refine hdiffer.imp fun {callable other} hne hcallable hother hrule hrenamed => ?_
    rw [Callable.procedureName_of_plain hcallable.plain,
      Callable.procedureName_of_plain hother.plain]
    exact memberName_ne_of_wrappersDiffer hne hcallable hother hrule hrenamed
  variants _ _ _ _ := Callable.procedureName_ne_of_overload_ne
  fixed _ _ _ _ _ hbound _ hbound' := Callable.toLower_ne_of_mem_boundAs hbound hbound'

/-- **Names that are bound by one rule are kept apart.** A class with a name of its own is
generated. In its derived type exactly the members are bound that were not left out, and these are
all of them if no name of a wrapper was reported to be taken. Of the names that they are bound
under, generic names differ from each other, and so do those of members that follow one rule and are
named alone, of variants of one name that are told apart and, also if case is disregarded, of
members that follow different fixed rules. The derived type has one line for each of these names. -/
theorem boundNames_apart (hproxies : setup.config.proxyClasses = true)
    (hfree : state.classSymbols.find? cls.publicName = none) :
    ∃ next opened data accepted, (Generate.cls setup cls).run.run state = (.ok (), next) ∧
      next.parts.types = state.parts.types ++ [.derived opened data] ∧
      accepted.Sublist cls.members ∧
      (Diagnostic.count .duplicateSymbol next.lookups.diagnostics =
        Diagnostic.count .duplicateSymbol state.lookups.diagnostics → accepted = cls.members) ∧
      HasBindings setup cls accepted opened ∧
      (∀ name, name ∈ opened.boundNames ↔
        ∃ callable ∈ accepted, ∃ rule, (rule, name) ∈ callable.boundAs) ∧
      NamesApart accepted opened ∧
      (TypeBlock.derived opened data).render =
        Text.ofLines (TypeBlock.derived opened data).lines := by
  obtain ⟨next, opened, data, accepted, hrun, htypes, hsublist, hbindings, hdiffer, hcount⟩ :=
    cls_accepts hproxies hfree
  refine ⟨next, opened, data, accepted, hrun, htypes, hsublist, fun hnone => ?_, hbindings,
    fun name => hbindings.mem_boundNames, hbindings.namesApart hdiffer,
    TypeBlock.render_eq_ofLines _⟩
  exact hsublist.eq_of_length (by omega)

/-- Nothing is known of templates. -/
def mixerSetup : Setup where
  sources := ⟨{ name := "mixer" }, fun _ _ => none⟩
  config := {}

/-- A class with some members. -/
def mixer (members : List Callable) : Class where
  name := "Mixer"
  members := members

/-- Members that follow five rules, two of them variants of one name. -/
def mixerMembers : List Callable :=
  [{ name := "Mixer", kind := .constructor },
    { name := "~Mixer", kind := .destructor },
    { name := "level", kind := .accessor "level" .get },
    { name := "level", kind := .accessor "level" .set },
    { name := "mix", kind := .method true, overload := some "_1" },
    { name := "mix", kind := .method true, overload := some "_2" }]

theorem boundNames_apart_mixer : mixerSetup.config.proxyClasses = true ∧
    ({} : GeneratorState).classSymbols.find? (mixer mixerMembers).publicName = none ∧
    ∃ next opened data,
      (Generate.cls mixerSetup (mixer mixerMembers)).run.run {} = (.ok (), next) ∧
      next.parts.types = [.derived opened data] ∧ NamesApart mixerMembers opened := by
  have hproxies : mixerSetup.config.proxyClasses = true := rfl
  have hfree : ({} : GeneratorState).classSymbols.find? (mixer mixerMembers).publicName = none :=
    rfl
  have hcount : Diagnostic.count .duplicateSymbol ((Generate.cls mixerSetup
      (mixer mixerMembers)).run.run {}).2.lookups.diagnostics = 0 := by decide +kernel
  obtain ⟨next, opened, data, accepted, hrun, htypes, -, hall, -, -, hapart, -⟩ :=
    boundNames_apart hproxies hfree
  rw [hrun] at hcount
  obtain rfl : accepted = mixerMembers := hall hcount
  exact ⟨hproxies, hfree, next, opened, data, hrun, htypes, hapart⟩

/-! ## Names that meet -/

/-- Members with names that meet. -/
def meetingMembers : List (List Callable) := [
  -- They follow different rules.
  [constructor none, method "create" none],
  [accessor "x" none, method "get_x" none],
  -- A symbol was given for one of them.
  [constructor none, { constructor none with symbol := some "make_Mixer" }],
  -- Their names were given.
  [accessor "x" "value", accessor "y" "value"],
  -- They differ in case only.
  [method "mix" none, method "Mix" none],
  [method "mix" "_1", method "Mix" "_2"],
  -- One of them is overloaded.
  [method "mix" none, method "mix" "_1"],
  [method "mix_1" none, method "mix" "_1"],
  -- Nothing tells the variants apart.
  [method "mix" "_1", method "mix" "_1"],
  -- The names of variants are put together in two ways.
  [method "mix" "_1_2", method "mix_1" "_2"],
  -- The generic name is the one of its variant.
  [constructor ""]]
where
  constructor (overload : Option String) : Callable :=
    { name := "Mixer", kind := .constructor, overload }
  method (name : String) (overload : Option String) : Callable :=
    { name, kind := .method true, overload }
  accessor (field : String) (rename : Option String) : Callable :=
    { name := field, kind := .accessor field .get, rename }

/-- How many names of wrappers are reported to be taken for a class with some members, and the names
that are bound in its derived type. -/
def mixerOutcome (members : List Callable) : Nat × List String :=
  let next := ((Generate.cls mixerSetup (mixer members)).run.run {}).2
  (Diagnostic.count .duplicateSymbol next.lookups.diagnostics,
    next.parts.types.flatMap TypeBlock.boundNames)

theorem map_mixerOutcome : meetingMembers.map mixerOutcome = [
    (0, ["create", "create"]), (0, ["get_x", "get_x"]), (0, ["create", "create"]),
    (0, ["value", "value"]), (0, ["mix", "Mix"]), (0, ["mix_1", "Mix_2", "mix", "Mix"]),
    (0, ["mix", "mix_1", "mix"]), (0, ["mix_1", "mix_1", "mix"]),
    (0, ["mix_1", "mix_1", "mix"]), (0, ["mix_1_2", "mix_1_2", "mix", "mix_1"]),
    (0, ["create", "create"])] := by
  decide +kernel

/-- It is enough to compare names character by character. -/
theorem not_nodup_map_toLower {names : List String}
    (h : ¬(names.map fun name => name.toList.map Char.toLower).Nodup) :
    ¬(names.map String.toLower).Nodup := by
  intro hnodup
  have hchars := hnodup.map fun _ _ => String.toList_injective
  have hlower : String.toList ∘ String.toLower = fun name => name.toList.map Char.toLower :=
    funext Text.toList_toLower
  rw [List.map_map, hlower] at hchars
  exact h hchars

theorem meet_of_mem_meetingMembers {members : List Callable} (h : members ∈ meetingMembers) :
    (mixerOutcome members).1 = 0 ∧ ¬((mixerOutcome members).2.map String.toLower).Nodup := by
  have hmem : mixerOutcome members ∈ meetingMembers.map mixerOutcome := List.mem_map_of_mem h
  have hall : ∀ outcome ∈ meetingMembers.map mixerOutcome,
      outcome.1 = 0 ∧ ¬(outcome.2.map fun name => name.toList.map Char.toLower).Nodup := by
    rw [map_mixerOutcome]
    decide +kernel
  obtain ⟨hcount, hnames⟩ := hall _ hmem
  exact ⟨hcount, not_nodup_map_toLower hnames⟩

/-- **Names in a derived type may meet** though no name of a wrapper was reported to be taken. -/
theorem boundNames_meet : mixerSetup.config = {} ∧ ∀ members ∈ meetingMembers,
    ∃ next opened data,
      (Generate.cls mixerSetup (mixer members)).run.run {} = (.ok (), next) ∧
      next.parts.types = [.derived opened data] ∧
      Diagnostic.count .duplicateSymbol next.lookups.diagnostics = 0 ∧
      ¬(opened.boundNames.map String.toLower).Nodup := by
  refine ⟨rfl, ?_⟩
  intro members hmembers
  obtain ⟨hcount, hnames⟩ := meet_of_mem_meetingMembers hmembers
  have hproxies : mixerSetup.config.proxyClasses = true := rfl
  have hfree : ({} : GeneratorState).classSymbols.find? (mixer members).publicName = none := rfl
  obtain ⟨next, opened, data, -, hrun, htypes, -⟩ := cls_accepts hproxies hfree
  rw [mixerOutcome, hrun] at hcount hnames
  have hblock : next.parts.types = [.derived opened data] := htypes
  refine ⟨next, opened, data, hrun, hblock, hcount, ?_⟩
  dsimp only at hnames
  rw [hblock, List.flatMap_singleton] at hnames
  exact hnames

end Generate

end FortranBindings
