import FortranBindings.Proofs.Generator.Contents
import FortranBindings.Proofs.Generator.Ledger
import FortranBindings.Proofs.ModuleSource.Lines

/-!
# Generation keeps to the ledger

A state is described by the declarations that were gone through: the names that were given away are
theirs, and the state holds what the ledger accepts (`Generate.Describes`). Each item keeps this,
and only a member outside of a class stops the run. So a run that meets none is described in the end
by all declarations (`Generate.generate_describes`), and no other run gives a module
(`Generate.freeFunction_of_generate`). The sources of a module are the lines of the parts that the
run ends with (`Generate.writtenOut_hasLines`).
-/

namespace FortranBindings

/-- The two sources of a module consist of these lines. -/
structure GeneratedModule.HasLines (module : GeneratedModule) (lines : ModuleLines) : Prop where
  cxxSource : module.cxxSource = Text.ofLines lines.cxx
  fortranSource : module.fortranSource = Text.ofLines (lines.fortran module.name)

theorem Item.function?_eq_some {item : Item} {f : Callable} :
    item.function? = some f ↔ item = .function f := by
  cases item <;> simp [function?]

/-- A name that is given away for the first time is found at its place. -/
theorem Symbols.find?_insert_of_free {symbols : Symbols} {name : String}
    (h : symbols.find? name = none) (location : Location) (other : String) :
    (symbols.insert name location).find? other =
      (symbols.find? other).or (if name = other then some location else none) := by
  rw [Dict.find?_insert]
  by_cases heq : name = other
  · subst heq
    rw [if_pos rfl, if_pos rfl, h]
    rfl
  · rw [if_neg (Ne.symm heq), if_neg heq, Option.or_none]

namespace Generate

/-- The state is the one that the declarations lead to according to their ledger. The derived types
`openNames` are still to be added; those in `shells` stand for classes that are not known. -/
structure Describes (setup : Setup) (entries : List Entry) (openNames shells : List String)
    (state : GeneratorState) : Prop where
  place? : ∀ name, state.place? name = Ledger.place? setup entries name
  holds : Holds setup (Ledger.callables setup entries)
    ((Ledger.classes setup entries).map Class.publicName) openNames shells
    (Ledger.reports setup entries) state

variable {setup : Setup} {entries : List Entry} {openNames shells : List String}
  {state next : GeneratorState}

theorem describes_initial (setup : Setup) : Describes setup [] [] [] {} where
  place? name := by cases name <;> rfl
  holds := holds_initial setup

/-- The name that is given away by adding a callable. -/
theorem Adds.place? {callable : Callable} {owner : Option Class}
    (hadds : Adds setup callable owner state next) (hfree : callable.isOverloaded = false →
      state.functionSymbols.find? (wrapperName setup callable owner) = none)
    (name : UniqueName) : next.place? name = (state.place? name).or
      (if (Entry.callable callable owner).name? setup = some name then some callable.location
        else none) := by
  cases name with
  | derivedType name =>
    have hname : (Entry.callable callable owner).name? setup ≠ some (.derivedType name) :=
      fun hsome => nomatch Entry.name?_eq_derivedType.1 hsome
    rw [if_neg hname, Option.or_none]
    exact congrArg (Dict.find? · name) hadds.classSymbols
  | wrapper name =>
    have hsymbols : next.place? (.wrapper name) =
        (symbolsWith setup callable owner state.functionSymbols).find? name :=
      congrArg (Dict.find? · name) hadds.functionSymbols
    rw [hsymbols, symbolsWith]
    cases hoverloaded : callable.isOverloaded with
    | true =>
      rw [Entry.name?_of_overloaded hoverloaded]
      exact (Option.or_none ..).symm
    | false =>
      rw [Entry.name?_of_plain hoverloaded]
      simpa [GeneratorState.place?] using
        Symbols.find?_insert_of_free (hfree hoverloaded) callable.location name

/-- The name that is given away by opening a class. -/
theorem place?_insert_derivedType {cls : Class}
    (hfree : state.classSymbols.find? cls.publicName = none) (lookups : LookupState)
    (name : UniqueName) :
    { state with
      classSymbols := state.classSymbols.insert cls.publicName cls.location
      lookups : GeneratorState }.place? name = (state.place? name).or
        (if (Entry.cls cls).name? setup = some name then some cls.location else none) := by
  cases name with
  | derivedType name =>
    rw [Entry.name?_cls]
    simpa [GeneratorState.place?] using Symbols.find?_insert_of_free hfree cls.location name
  | wrapper name => exact (Option.or_none ..).symm

namespace Describes

/-- Looking templates up does not show in the ledger. -/
theorem withLookups (h : Describes setup entries openNames shells state) {lookups : LookupState}
    (hlookups : state.lookups.Extends lookups) :
    Describes setup entries openNames shells { state with lookups } :=
  ⟨h.place?, h.holds.withLookups hlookups⟩

/-- Types do not show in the ledger. -/
theorem withTypes (h : Describes setup entries openNames shells state) (blocks : List TypeBlock)
    (publics : List (List String)) {openNames' shells' : List String}
    (hderived : setup.config.proxyClasses = true →
      openNames = blocks.filterMap TypeBlock.derivedName? ++ openNames')
    (hshells : shells ++ blocks.filterMap TypeBlock.shellName? = shells') :
    Describes setup entries openNames' shells'
      { state with parts :=
        { state.parts with types := state.parts.types ++ blocks, publics } } :=
  ⟨h.place?, h.holds.withTypes blocks publics hderived hshells⟩

/-- A declaration whose name is taken is reported. -/
theorem refuse (h : Describes setup entries openNames shells state) {entry : Entry}
    {name : UniqueName} {previous : Location} (hname : entry.name? setup = some name)
    (htaken : state.place? name = some previous) :
    Describes setup (entries ++ [entry]) openNames shells
      (state.refuse name entry.location previous) := by
  rw [h.place?] at htaken
  have hjudge := Ledger.judge_of_taken hname htaken
  refine ⟨fun other => ?_, ?_⟩
  · have hsame : (state.refuse name entry.location previous).place? other =
        state.place? other := by cases other <;> rfl
    rw [hsame, h.place?, Ledger.place?_concat, hname]
    by_cases heq : name = other
    · rw [← heq, htaken]
      rfl
    · rw [if_neg fun hsome => heq (Option.some.inj hsome), Option.or_none]
  · rw [Ledger.callables_concat_of_taken hjudge, Ledger.classes_concat_of_taken hjudge,
      Ledger.reports_concat_of_taken hjudge hname]
    exact h.holds.refuse name entry.location previous

/-- A callable that is added is accepted. -/
theorem added (h : Describes setup entries openNames shells state) {callable : Callable}
    {owner : Option Class} (hfree : callable.isOverloaded = false →
      state.functionSymbols.find? (wrapperName setup callable owner) = none)
    (hadds : Adds setup callable owner state next) :
    Describes setup (entries ++ [.callable callable owner]) openNames shells next := by
  have hjudge : Ledger.judge setup entries (.callable callable owner) =
      ⟨.callable callable owner, none⟩ := by
    refine Ledger.judge_of_free fun name hname => ?_
    rw [← h.place?]
    cases name with
    | derivedType name =>
      obtain ⟨c, hc, -⟩ := Entry.name?_eq_derivedType.1 hname
      cases hc
    | wrapper name =>
      obtain ⟨f, o, hf, hplain, rfl⟩ := Entry.name?_eq_wrapper.1 hname
      cases hf
      exact hfree hplain
  refine ⟨fun name => ?_, ?_⟩
  · rw [Ledger.place?_concat, ← h.place?]
    exact hadds.place? hfree name
  · rw [Ledger.callables_concat_of_free hjudge, Ledger.classes_concat_of_free hjudge,
      Ledger.reports_concat_of_free hjudge, Entry.class?, Option.toList_none, List.append_nil]
    exact h.holds.added hadds

/-- A class that is opened is accepted. -/
theorem opened (h : Describes setup entries [] shells state) {cls : Class}
    (hfree : state.classSymbols.find? cls.publicName = none) {lookups : LookupState}
    (hlookups : state.lookups.Extends lookups) :
    Describes setup (entries ++ [.cls cls]) [cls.publicName] shells
      { state with
        classSymbols := state.classSymbols.insert cls.publicName cls.location, lookups } := by
  have hjudge : Ledger.judge setup entries (.cls cls) = ⟨.cls cls, none⟩ := by
    refine Ledger.judge_of_free fun name hname => ?_
    rw [← h.place?]
    obtain rfl := Option.some.inj ((Entry.name?_cls cls).symm.trans hname)
    exact hfree
  refine ⟨fun name => ?_, ?_⟩
  · rw [Ledger.place?_concat, ← h.place?]
    exact place?_insert_derivedType hfree lookups name
  · rw [Ledger.callables_concat_of_free hjudge, Ledger.classes_concat_of_free hjudge,
      Ledger.reports_concat_of_free hjudge, Entry.callable?, Option.toList_none, List.append_nil,
      List.map_append]
    exact (h.holds.withLookups hlookups).opened cls.publicName _

end Describes

/-! ## Items -/

/-- The members of an open class are gone through in order. -/
theorem members_describes {cls : Class} {opened : OpenClass}
    (howner : ownerOf (some opened) = some (cls, cls.publicName))
    (h : Describes setup (entries ++ [.cls cls]) [cls.publicName] shells state) :
    ∃ last next, (members setup cls cls.members opened).run.run state = (.ok last, next) ∧
      last.name = cls.publicName ∧
      Describes setup (entries ++ .cls cls :: cls.members.map (.callable · (some cls)))
        [cls.publicName] shells next := by
  -- What is known when the members `past` were gone through.
  let inv (past : List Callable) (opened : OpenClass) (state : GeneratorState) : Prop :=
    ownerOf (some opened) = some (cls, cls.publicName) ∧
      Describes setup (entries ++ .cls cls :: past.map (.callable · (some cls)))
        [cls.publicName] shells state
  have hnext : ∀ (past : List Callable) (callable : Callable),
      (entries ++ .cls cls :: past.map (.callable · (some cls))) ++
        [.callable callable (some cls)] =
      entries ++ .cls cls :: (past ++ [callable]).map (Entry.callable · (some cls)) := by
    intro past callable
    rw [List.map_append, List.append_assoc]
    rfl
  have hrun : ∃ last next, (members setup cls cls.members opened).run.run state =
      (.ok last, next) ∧ inv cls.members last next := by
    refine members_run_past cls inv ?_ ?_ ⟨howner, h⟩
    · rintro past callable opened state name previous rfl hplain htaken ⟨ho, hd⟩
      have hcls : opened.cls = cls := congrArg Prod.fst (Option.some.inj ho)
      rw [hcls] at htaken ⊢
      refine ⟨ho, ?_⟩
      rw [← hnext]
      exact hd.refuse (Entry.name?_of_plain hplain (some cls)) htaken
    · rintro past callable opened bound state next hfree hbound hadds ⟨ho, hd⟩
      have hcls : opened.cls = cls := congrArg Prod.fst (Option.some.inj ho)
      rw [hcls] at hfree hadds
      refine ⟨hbound.ownerOf.trans ho, ?_⟩
      rw [← hnext]
      exact hd.added hfree hadds
  obtain ⟨last, next, hrun, hlast, hdescribes⟩ := hrun
  exact ⟨last, next, hrun, congrArg Prod.snd (Option.some.inj hlast), hdescribes⟩

theorem cls_describes (h : Describes setup entries [] shells state) (cls : Class) :
    ∃ next, (orSkip (Generate.cls setup cls) () id).run.run state = (.ok (), next) ∧
      Describes setup (Entry.reach entries (.cls cls)) [] shells next := by
  have hplace := h.place? (.derivedType cls.publicName)
  cases hfind : state.classSymbols.find? cls.publicName with
  | some previous =>
    have hfailed : (Generate.cls setup cls).run.run state = _ :=
      run_bind_of_error (openClass_of_taken hfind)
    refine ⟨_, orSkip_of_skip hfailed rfl () id, ?_⟩
    have hknown : cls.publicName ∈ (entries.filterMap Entry.class?).map Class.publicName := by
      by_contra hnew
      rw [Ledger.place?_derivedType_eq_none.2 hnew] at hplace
      cases hfind.symm.trans hplace
    rw [Entry.reach, if_pos hknown]
    exact h.refuse (Entry.name?_cls cls) hfind
  | none =>
    have howner : ownerOf (some { cls, name := cls.publicName }) = some (cls, cls.publicName) :=
      rfl
    obtain ⟨last, middle, hmembers, hname, hmiddle⟩ :=
      members_describes howner (h.opened hfind (remarkBases_extends cls state.lookups))
    obtain ⟨lookups', data, publics, hrun, hlookups'⟩ := cls_run hfind hmembers
    refine ⟨_, orSkip_of_ok hrun () id, ?_⟩
    have hnew : cls.publicName ∉ (entries.filterMap Entry.class?).map Class.publicName :=
      Ledger.place?_derivedType_eq_none.1 (hplace.symm.trans hfind)
    rw [Entry.reach, if_neg hnew]
    refine (hmiddle.withLookups hlookups').withTypes _ publics (fun hproxies => ?_) ?_
    · rw [derivedTypes, if_pos hproxies, ← hname]
      rfl
    · rw [derivedTypes]
      split <;> exact List.append_nil _

theorem function_describes (h : Describes setup entries [] shells state) {callable : Callable}
    (hkind : callable.kind = .freeFunction) : ∃ next,
      (item setup (.function callable)).run.run state = (.ok (), next) ∧
        Describes setup (Entry.reach entries (.function callable)) [] shells next := by
  have houtcome := function_outcome setup callable none state
  generalize hrun : (function setup callable none).run.run state = result at houtcome
  cases houtcome with
  | outside hmember _ =>
    rw [hkind] at hmember
    cases hmember
  | taken hname hplain htaken =>
    subst hname
    exact ⟨_, run_bind_of_ok (orSkip_of_skip hrun rfl _ _),
      h.refuse (Entry.name?_of_plain hplain none) htaken⟩
  | added hfree _ hadds =>
    exact ⟨_, run_bind_of_ok (orSkip_of_ok hrun _ _), h.added hfree hadds⟩

/-- **An item is gone through** unless it is a member. -/
theorem item_describes (h : Describes setup entries [] shells state) {item : Item}
    (hitem : ∀ f, item.function? = some f → f.kind = .freeFunction) :
    ∃ next, (Generate.item setup item).run.run state = (.ok (), next) ∧
      Describes setup (Entry.reach entries item) [] shells next := by
  cases item with
  | function callable => exact function_describes h (hitem callable rfl)
  | cls cls => exact cls_describes h cls
  | enumeration enumeration =>
    exact ⟨_, rfl, h.withTypes _ _ (fun _ => rfl) (List.append_nil _)⟩

theorem items_describe {items : List Item} (h : Describes setup entries [] shells state)
    (hitems : ∀ f ∈ items.filterMap Item.function?, f.kind = .freeFunction) :
    ∃ next, (items.forM (item setup)).run.run state = (.ok (), next) ∧
      Describes setup (items.foldl Entry.reach entries) [] shells next := by
  induction items generalizing entries state with
  | nil => exact ⟨state, rfl, h⟩
  | cons item items ih =>
    obtain ⟨middle, hitem, hmiddle⟩ := item_describes h fun f hf =>
      hitems f (List.mem_filterMap.2 ⟨item, List.mem_cons_self, hf⟩)
    obtain ⟨next, hrest, hnext⟩ := ih hmiddle fun f hf => by
      obtain ⟨other, hother, hfunction⟩ := List.mem_filterMap.1 hf
      exact hitems f (List.mem_filterMap.2 ⟨other, List.mem_cons_of_mem _ hother, hfunction⟩)
    exact ⟨next, (run_bind_of_ok hitem).trans hrest, hnext⟩

theorem item_of_member (setup : Setup) (state : GeneratorState) {callable : Callable}
    (h : callable.kind ≠ .freeFunction) :
    ∃ error, (item setup (.function callable)).run.run state = (.error error, state) := by
  have hmember : callable.kind.isMember = true := decide_eq_true h
  exact ⟨_, run_bind_of_error (orSkip_of_error (function_of_outside hmember) rfl _ _)⟩

/-- There are no members among the items that were gone through. -/
theorem freeFunction_of_items {items : List Item}
    (h : (items.forM (item setup)).run.run state = (.ok (), next)) :
    ∀ f ∈ items.filterMap Item.function?, f.kind = .freeFunction := by
  induction items generalizing state with
  | nil => exact fun f hf => absurd hf List.not_mem_nil
  | cons item items ih =>
    have hcons : (item :: items).forM (Generate.item setup) =
        Generate.item setup item >>= fun _ => items.forM (Generate.item setup) := rfl
    rw [hcons] at h
    rcases hitem : (Generate.item setup item).run.run state with ⟨error | ⟨⟩, middle⟩
    · rw [run_bind_of_error hitem] at h
      cases h
    · rw [run_bind_of_ok hitem] at h
      intro f hf
      rw [List.mem_filterMap, List.exists_mem_cons_iff] at hf
      rcases hf with hfunction | hf
      · obtain rfl : item = .function f := Item.function?_eq_some.1 hfunction
        by_contra hkind
        obtain ⟨error, hfailed⟩ := item_of_member setup state hkind
        cases hfailed.symm.trans hitem
      · exact ih h f (List.mem_filterMap.2 hf)

/-! ## The whole module -/

theorem shells_describe (names : List String) (h : Describes setup entries [] shells state) :
    ∃ next, (Generate.shells setup names).run.run state = (.ok (), next) ∧
      Describes setup entries [] (shells ++ names) next := by
  induction names generalizing shells state with
  | nil =>
    rw [List.append_nil]
    exact ⟨state, rfl, h⟩
  | cons name names ih =>
    obtain ⟨data, lookups, hdata, hlookups⟩ := dataLines_run setup name {} state
    let added : GeneratorState :=
      { state with
        lookups
        parts := { state.parts with types := state.parts.types ++ [.shell name data] } }
    have hadded : Describes setup entries [] (shells ++ [name]) added :=
      (h.withLookups hlookups).withTypes [.shell name data] _ (fun _ => rfl) rfl
    obtain ⟨next, hrest, hnext⟩ := ih hadded
    refine ⟨next, ?_, List.append_cons .. ▸ hnext⟩
    rw [Generate.shells, run_bind_of_ok hdata]
    exact (run_bind_of_ok rfl).trans hrest

/-- The module that a state is written out as. -/
def writtenOut (setup : Setup) (state : GeneratorState) : GeneratedModule where
  name := setup.moduleName
  cxxSource := state.parts.cxxSource setup.sources.decls
  fortranSource := state.parts.fortranSource setup.config setup.moduleName
  diagnostics := state.lookups.diagnostics
  bindings := state.bindings

theorem writtenOut_diagnostics (setup : Setup) (state : GeneratorState) :
    (writtenOut setup state).diagnostics = state.lookups.diagnostics :=
  rfl

/-- A module is written out line by line. -/
theorem writtenOut_hasLines (setup : Setup) (state : GeneratorState) :
    (writtenOut setup state).HasLines
      (state.parts.lines setup.sources.decls setup.config) where
  cxxSource := state.parts.cxxSource_eq_ofLines setup.sources.decls setup.config
  fortranSource :=
    state.parts.fortranSource_eq_ofLines setup.sources.decls setup.config setup.moduleName

/-- At the end shells are added for the placeholder classes that were named. -/
theorem finish_run
    (h : (Generate.shells setup state.lookups.opaqueTypes).run.run state = (.ok (), next)) :
    (finish setup).run.run state = (.ok (writtenOut setup next), next) := by
  have hget : (get : Generate GeneratorState).run.run state = (.ok state, state) := rfl
  rw [finish, run_bind_of_ok hget, run_bind_of_ok h]
  rfl

/-- The state that generation ends in. -/
def finalState (setup : Setup) : GeneratorState :=
  ((all setup *> finish setup).run.run {}).2

/-- Without members outside of classes generation runs to its end: it goes through all items and
adds shells for the placeholder classes that were named. -/
theorem generate_runs (h : ∀ f ∈ setup.sources.decls.functions, f.kind = .freeFunction) :
    ∃ state, (all setup).run.run {} = (.ok (), state) ∧
      (Generate.shells setup state.lookups.opaqueTypes).run.run state =
        (.ok (), finalState setup) ∧
      generate setup = .ok (writtenOut setup (finalState setup)) ∧
      Describes setup setup.sources.decls.entries [] [] state ∧
      Describes setup setup.sources.decls.entries [] state.lookups.opaqueTypes
        (finalState setup) := by
  obtain ⟨state, hall, hstate⟩ := items_describe (describes_initial setup) h
  obtain ⟨next, hshells, hnext⟩ := shells_describe state.lookups.opaqueTypes hstate
  have hrun : (all setup *> finish setup).run.run {} = (.ok (writtenOut setup next), next) := by
    rw [seqRight_eq_bind]
    exact (run_bind_of_ok hall).trans (finish_run hshells)
  have hfinal : finalState setup = next := congrArg Prod.snd hrun
  rw [hfinal]
  exact ⟨state, hall, hshells, congrArg Prod.fst hrun, hstate, hnext⟩

/-- Without members outside of classes a module is generated, and the ledger describes it. -/
theorem generate_describes (h : ∀ f ∈ setup.sources.decls.functions, f.kind = .freeFunction) :
    ∃ shells, generate setup = .ok (writtenOut setup (finalState setup)) ∧
      Describes setup setup.sources.decls.entries [] shells (finalState setup) ∧ shells.Nodup ∧
      ∀ name ∈ shells, ∃ type, name = placeholderName type := by
  obtain ⟨state, -, -, hgenerate, hstate, hfinal⟩ := generate_runs h
  exact ⟨state.lookups.opaqueTypes, hgenerate, hfinal, hstate.holds.nodup_opaqueTypes,
    hstate.holds.opaqueTypes⟩

/-- If a module was generated, there were no members outside of classes. -/
theorem freeFunction_of_generate {module : GeneratedModule} (h : generate setup = .ok module) :
    ∀ f ∈ setup.sources.decls.functions, f.kind = .freeFunction := by
  rw [generate, seqRight_eq_bind] at h
  rcases hall : (all setup).run.run {} with ⟨error | ⟨⟩, state⟩
  · rw [run_bind_of_error hall] at h
    cases h
  · exact freeFunction_of_items hall

end Generate

end FortranBindings
