import FortranBindings.Proofs.Generator.Additions
import FortranBindings.Proofs.Generator.Failure
import FortranBindings.Proofs.Generator.History

/-!
# The steps that a class is generated by

A class is opened, its members are generated and it is closed. Each of these steps adds blocks to
the streams of the module and may give names away. It does the same from any two states in which
the answers that were kept are sound and the same of its names are given away, and it leaves all
other names alone (`Generate.IsUniform`). This holds of opening a class
(`Generate.openClass_isUniform`), of its members (`Generate.function_isUniform`) and of closing it
(`Generate.closeClass_isUniform`), as long as the types involved can be read from spellings.
-/

namespace FortranBindings

/-! ## Streams -/

/-- A stream of a module, which steps of generation add blocks to. -/
inductive ModuleStream
  | wrappers
  | interfaces
  | routines
  | types
  | publics
  | bindings

/-- What a stream is made of. -/
abbrev ModuleStream.Block : ModuleStream → Type
  | wrappers => Wrapper
  | interfaces => BindInterface
  | routines => Routine
  | types => TypeBlock
  | publics => List String
  | bindings => Binding

/-- Blocks for each of the streams. -/
abbrev Blocks := (stream : ModuleStream) → List stream.Block

namespace GeneratorState

/-- The blocks that each stream has. -/
def blocks (state : GeneratorState) : Blocks
  | .wrappers => state.parts.wrappers
  | .interfaces => state.parts.interfaces
  | .routines => state.parts.routines
  | .types => state.parts.types
  | .publics => state.parts.publics
  | .bindings => state.bindings

/-- The blocks that each stream has more than it had before. -/
def since (before state : GeneratorState) : Blocks :=
  fun stream => (state.blocks stream).drop (before.blocks stream).length

/-- The streams have the blocks that they had before, and the added ones behind them. -/
def Gains (before state : GeneratorState) (added : Blocks) : Prop :=
  ∀ stream, state.blocks stream = before.blocks stream ++ added stream

variable {before state next : GeneratorState} {added added' : Blocks}

theorem Gains.since_eq (h : before.Gains state added) : before.since state = added := by
  funext stream
  rw [since, h stream, List.drop_left]

theorem Gains.trans (h : before.Gains state added) (h' : state.Gains next added') :
    before.Gains next fun stream => added stream ++ added' stream := by
  intro stream
  rw [h' stream, h stream, List.append_assoc]

/-- Nothing is added where the streams are the same. -/
theorem gains_nil (h : state.blocks = before.blocks) : before.Gains state fun _ => [] := by
  intro stream
  rw [h, List.append_nil]

end GeneratorState

/-- The blocks that a member of a class adds. -/
def Generate.Made.blocks (callable : Callable) (owner : Class) (made : Made) : Blocks
  | .wrappers => [made.bridge.wrapper]
  | .interfaces => [made.bridge.interface]
  | .routines => made.proxy?.elim [] (· :: made.finalizer?.toList)
  | .types => []
  | .publics => made.proxy?.elim [[made.bridge.name]] fun _ => []
  | .bindings =>
    [{ name := callable.name, className := owner.publicName, wrapper := made.bridge.name,
       proxy := made.proxy?.map Routine.name }]

namespace GeneratorState

theorem gains_adding (setup : Setup) (callable : Callable) (owner : Class) (made : Generate.Made)
    (lookups : LookupState) (state : GeneratorState) :
    state.Gains (state.adding setup callable (some owner) made lookups)
      (made.blocks callable owner) := by
  intro stream
  obtain ⟨bridge, proxy?, finalizer?⟩ := made
  cases stream <;> cases proxy? <;>
    simp [blocks, adding, ModuleParts.adding, ModuleParts.addingRoutines, Generate.Made.blocks]

/-! ## Names that are given away -/

theorem place?_refuse (state : GeneratorState) (name other : UniqueName)
    (location previous : Location) :
    (state.refuse name location previous).place? other = state.place? other := by
  cases other <;> rfl

/-- Generating a callable gives away the name of its wrapper, unless it is overloaded. -/
theorem place?_adding (setup : Setup) (callable : Callable) (owner : Option Class)
    (made : Generate.Made) (lookups : LookupState) (state : GeneratorState) (name : UniqueName) :
    (state.adding setup callable owner made lookups).place? name =
      if callable.isOverloaded = false ∧
          name = .wrapper (Generate.wrapperName setup callable owner) then some callable.location
      else state.place? name := by
  cases name with
  | derivedType name => simp [place?, adding]
  | wrapper name =>
    unfold place? adding Generate.symbolsWith
    cases callable.isOverloaded <;> simp [Dict.find?_insert]

/-- The two states have the same of the names given away, at the same places. -/
def AgreeOn (names : List UniqueName) (state other : GeneratorState) : Prop :=
  ∀ name ∈ names, state.place? name = other.place? name

end GeneratorState

/-! ## Settled steps -/

namespace Lookup.Settled

variable {sources : Sources} {α β : Type}

protected theorem pure (a : α) : Settled sources (pure a : Lookup α) :=
  ⟨a, .pure rfl⟩

protected theorem bind {m : Lookup α} {f : α → Lookup β} {a : α}
    (hm : Ensures (LookupState.Sound sources) m (· = a)) (hf : (f a).Settled sources) :
    (m >>= f).Settled sources := by
  obtain ⟨b, hb⟩ := hf
  refine ⟨b, hm.bind ?_⟩
  rintro _ rfl
  exact hb

protected theorem map {m : Lookup α} (hm : m.Settled sources) (f : α → β) :
    (f <$> m).Settled sources := by
  obtain ⟨a, ha⟩ := hm
  exact ⟨f a, ha.map fun _ h => congrArg f h⟩

end Lookup.Settled

namespace Generate

variable {setup : Setup} {callable : Callable} {opened : Option OpenClass} {bridge : Bridge}

/-- The bridge of a declaration whose types can be read has types that can be read. -/
theorem isSpelled_of_make {owner : Option Class} (h : callable.IsSpelled)
    (ho : ∀ cls ∈ owner, cls.HasPlainName) {name : String} {lookups : LookupState}
    (hmade : ((Bridge.make setup.sources callable owner name).run.run lookups).1 = .ok bridge) :
    bridge.IsSpelled := by
  obtain ⟨-, hparameters, hresult⟩ :=
    (Bridge.make_ensures callable owner name lookups trivial).1 bridge hmade
  refine ⟨?_, ?_⟩
  · rw [hparameters]
    exact h.parametersIn ho
  · rw [hresult]
    exact h.resultIn ho

theorem makeFinalizer?_settled (ho : ∀ o ∈ opened, o.cls.HasPlainName) :
    (makeFinalizer? setup callable bridge opened).Settled setup.sources := by
  unfold makeFinalizer?
  split
  · next o =>
    have hasks : Lookup.Asks setup.sources (Proxy.AskedByFinalizer o.cls)
        (Proxy.makeFinalizer setup.sources setup.config o.cls o.name bridge) :=
      Proxy.makeFinalizer_asks setup.config o.cls o.name bridge
    split
    · exact (hasks.mono fun _ hr => hr.isPlain (ho o rfl)).settled.map some
    · exact .pure _
  · exact .pure _

/-- Making the routines of a bridge is settled. -/
theorem makeRoutines_settled (hbridge : bridge.IsSpelled)
    (ho : ∀ o ∈ opened, o.cls.HasPlainName) :
    (makeRoutines setup callable opened bridge).Settled setup.sources := by
  unfold makeRoutines
  split
  · obtain ⟨proxy, hproxy⟩ : (Proxy.make setup.sources setup.config callable
        (.ofKind callable.kind) bridge (ownerOf opened)).Settled setup.sources :=
      Proxy.make_settled hbridge _ _ _ _
    obtain ⟨finalizer?, hfinalizer⟩ : (makeFinalizer? setup callable bridge opened).Settled
      setup.sources := makeFinalizer?_settled ho
    exact .bind hproxy (.bind hfinalizer (.pure _))
  · exact .pure _

/-- **What is made for a callable is settled** if its types can be read. -/
theorem make_settled (h : callable.IsSpelled) (ho : ∀ o ∈ opened, o.cls.HasPlainName) :
    (make setup callable opened).run.Settled setup.sources := by
  have howner : ∀ cls ∈ opened.map OpenClass.cls, cls.HasPlainName := by
    intro cls hcls
    obtain ⟨o, hmem, rfl⟩ := Option.map_eq_some_iff.1 hcls
    exact ho o hmem
  obtain ⟨result, hresult⟩ : (Bridge.make setup.sources callable (opened.map OpenClass.cls)
      (wrapperName setup callable (opened.map OpenClass.cls))).run.Settled setup.sources :=
    Bridge.make_settled h howner _
  unfold make
  dsimp only
  rw [ExceptT.run_bind]
  refine .bind hresult ?_
  cases result with
  | error error => exact .pure _
  | ok bridge =>
    have hbridge : bridge.IsSpelled :=
      isSpelled_of_make h howner (hresult {} (LookupState.sound_empty setup.sources)).1
    let finished (routines : Option Routine × Option Routine) : Except GenerateError Made :=
      .ok ⟨bridge, routines.1, routines.2⟩
    have hroutines : (makeRoutines setup callable opened bridge).Settled setup.sources :=
      makeRoutines_settled hbridge ho
    exact hroutines.map finished

/-- What is made for a member is the same from all states with sound answers. -/
theorem exists_made (setup : Setup) (h : callable.IsSpelled) {o : OpenClass}
    (ho : o.cls.HasPlainName) :
    ∃ made, ∀ lookups : LookupState, lookups.Sound setup.sources → ∃ last : LookupState,
      (make setup callable (some o)).run.run lookups = (.ok made, last) ∧
        last.Sound setup.sources := by
  have hplain : ∀ o' ∈ some o, o'.cls.HasPlainName := by
    rintro _ ⟨⟩
    exact ho
  obtain ⟨result, hresult⟩ : (make setup callable (some o)).run.Settled setup.sources :=
    make_settled h hplain
  obtain ⟨made, last, hmade⟩ : ∃ made last,
      (make setup callable (some o)).run.run {} = (.ok made, last) :=
    exists_make_eq_ok setup (fun _ => rfl) {}
  obtain rfl : .ok made = result := by
    have hempty := (hresult {} (LookupState.sound_empty setup.sources)).1
    rwa [hmade] at hempty
  refine ⟨made, fun lookups hlookups => ⟨_, Prod.ext (hresult lookups hlookups).1 rfl, ?_⟩⟩
  exact (hresult lookups hlookups).2

/-- The lines that declare the data of a class are the same from all states with sound answers. -/
theorem exists_data (setup : Setup) {cls : Class} (h : cls.HasPlainName) (location : Location) :
    ∃ data, ∀ state, IsSound setup state → ∃ lookups : LookupState,
      (dataLines setup cls.name location).run.run state = (.ok data, { state with lookups }) ∧
        lookups.Sound setup.sources := by
  have hasks : Lookup.Asks setup.sources Request.IsPlain
      (Lookup.code setup.sources (dataRequest cls.name location)) :=
    .code (h.isPlain_dataRequest location)
  obtain ⟨code, hcode⟩ := hasks.settled
  refine ⟨Text.codeLines code, fun state hs => ?_⟩
  obtain ⟨hvalue, hsound⟩ := hcode state.lookups hs
  refine ⟨_, ?_, hsound⟩
  subst hvalue
  rfl

/-! ## Uniform steps -/

/-- The two states have sound answers, and the same of the names are given away in them. -/
structure Alike (setup : Setup) (names : List UniqueName) (state other : GeneratorState) :
    Prop where
  sound : IsSound setup state
  sound' : IsSound setup other
  agree : state.AgreeOn names other

namespace Alike

variable {names : List UniqueName} {state other next next' : GeneratorState}

theorem refuse (h : Alike setup names state other) (name : UniqueName)
    (location previous : Location) :
    Alike setup names (state.refuse name location previous)
      (other.refuse name location previous) where
  sound := h.sound.report _
  sound' := h.sound'.report _
  agree unique hunique := by
    rw [GeneratorState.place?_refuse, GeneratorState.place?_refuse]
    exact h.agree unique hunique

/-- The states stay alike if the same names are given away. -/
theorem give (h : Alike setup names state other) (hsound : IsSound setup next)
    (hsound' : IsSound setup next') {gives : UniqueName → Prop} [DecidablePred gives]
    {place : Location}
    (hnext : ∀ name, next.place? name = if gives name then some place else state.place? name)
    (hnext' : ∀ name, next'.place? name = if gives name then some place else other.place? name) :
    Alike setup names next next' where
  sound := hsound
  sound' := hsound'
  agree name hname := by
    rw [hnext, hnext', h.agree name hname]

end Alike

/-- From any two states that are alike for the names, the step gives the same value and adds the
same blocks, and it leads to states that are alike. It gives away none but these names. -/
structure IsUniform {α : Type} (setup : Setup) (names : List UniqueName) (step : Generate α) :
    Prop where
  same : ∀ {state other}, Alike setup names state other → ∃ result added next next',
    step.run.run state = (result, next) ∧ step.run.run other = (result, next') ∧
    state.Gains next added ∧ other.Gains next' added ∧ Alike setup names next next'
  spares : ∀ {name}, name ∉ names → ∀ state,
    (step.run.run state).2.place? name = state.place? name

namespace IsUniform

variable {α β : Type} {names : List UniqueName}

protected theorem pure (a : α) : IsUniform setup names (pure a) where
  same h := ⟨.ok a, fun _ => [], _, _, rfl, rfl, GeneratorState.gains_nil rfl,
    GeneratorState.gains_nil rfl, h⟩
  spares _ _ := rfl

protected theorem bind {step : Generate α} {f : α → Generate β} (h : IsUniform setup names step)
    (hf : ∀ a, IsUniform setup names (f a)) : IsUniform setup names (step >>= f) where
  same halike := by
    obtain ⟨result, added, next, next', hrun, hrun', hgains, hgains', hnext⟩ := h.same halike
    cases result with
    | error error =>
      exact ⟨.error error, added, next, next', run_bind_of_error hrun, run_bind_of_error hrun',
        hgains, hgains', hnext⟩
    | ok a =>
      obtain ⟨result, more, last, last', hlast, hlast', hmore, hmore', halike'⟩ :=
        (hf a).same hnext
      exact ⟨result, _, last, last', (run_bind_of_ok hrun).trans hlast,
        (run_bind_of_ok hrun').trans hlast', hgains.trans hmore, hgains'.trans hmore', halike'⟩
  spares hname state := by
    have hplace := h.spares hname state
    rcases hrun : step.run.run state with ⟨error | a, next⟩
    · rw [run_bind_of_error hrun, ← hplace, hrun]
    · rw [run_bind_of_ok hrun, (hf a).spares hname next, ← hplace, hrun]

end IsUniform

variable {names : List UniqueName}

theorem sound_remarkBases (cls : Class) {lookups : LookupState}
    (h : lookups.Sound setup.sources) : (remarkBases cls lookups).Sound setup.sources := by
  unfold remarkBases
  split
  · exact h.report _
  · exact h

/-- Opening a class gives away the name of its derived type. -/
theorem place?_openClass (cls : Class) (lookups : LookupState) (state : GeneratorState)
    (name : UniqueName) :
    { state with
      classSymbols := state.classSymbols.insert cls.publicName cls.location
      lookups : GeneratorState }.place? name =
      if name = .derivedType cls.publicName then some cls.location else state.place? name := by
  cases name <;> simp [GeneratorState.place?, Dict.find?_insert]

/-- **Opening a class** is uniform for the name of its derived type. -/
theorem openClass_isUniform {cls : Class} (h : .derivedType cls.publicName ∈ names) :
    IsUniform setup names (openClass cls) where
  same {state other} halike := by
    have hagree : state.classSymbols.find? cls.publicName =
      other.classSymbols.find? cls.publicName := halike.agree _ h
    cases hfind : state.classSymbols.find? cls.publicName with
    | some previous =>
      exact ⟨_, _, _, _, openClass_of_taken hfind, openClass_of_taken (hagree ▸ hfind),
        GeneratorState.gains_nil rfl, GeneratorState.gains_nil rfl, halike.refuse _ _ _⟩
    | none =>
      exact ⟨_, _, _, _, openClass_of_free hfind, openClass_of_free (hagree ▸ hfind),
        GeneratorState.gains_nil rfl, GeneratorState.gains_nil rfl,
        halike.give (sound_remarkBases cls halike.sound) (sound_remarkBases cls halike.sound')
          (place?_openClass cls _ state) (place?_openClass cls _ other)⟩
  spares {name} hname state := by
    cases hfind : state.classSymbols.find? cls.publicName with
    | some previous =>
      rw [openClass_of_taken hfind]
      exact GeneratorState.place?_refuse ..
    | none =>
      have hne : name ≠ .derivedType cls.publicName := fun heq => hname (heq ▸ h)
      rw [openClass_of_free hfind]
      exact (place?_openClass cls _ state name).trans (if_neg hne)

/-- **Generating a member** is uniform for the name of its wrapper. -/
theorem function_isUniform {o : OpenClass} (hcallable : callable.IsSpelled)
    (ho : o.cls.HasPlainName) (h : callable.isOverloaded = false →
      .wrapper (wrapperName setup callable (some o.cls)) ∈ names) :
    IsUniform setup names (function setup callable (some o)) where
  same {state other} halike := by
    have hmember : callable.kind.isMember = true → (some o).isSome := fun _ => rfl
    have hagree : callable.isOverloaded = false →
        state.functionSymbols.find? (wrapperName setup callable (some o.cls)) =
          other.functionSymbols.find? (wrapperName setup callable (some o.cls)) :=
      fun hplain => halike.agree _ (h hplain)
    by_cases hfree : callable.isOverloaded = false →
        state.functionSymbols.find? (wrapperName setup callable (some o.cls)) = none
    · have hfree' : callable.isOverloaded = false →
          other.functionSymbols.find? (wrapperName setup callable (some o.cls)) = none :=
        fun hplain => (hagree hplain).symm.trans (hfree hplain)
      obtain ⟨made, hmade⟩ := exists_made setup hcallable ho
      obtain ⟨lookups, hmake, hsound⟩ := hmade state.lookups halike.sound
      obtain ⟨lookups', hmake', hsound'⟩ := hmade other.lookups halike.sound'
      exact ⟨_, made.blocks callable o.cls, _, _, function_of_made hmember hfree hmake,
        function_of_made hmember hfree' hmake',
        GeneratorState.gains_adding setup callable o.cls made lookups state,
        GeneratorState.gains_adding setup callable o.cls made lookups' other,
        halike.give hsound hsound'
          (GeneratorState.place?_adding setup callable _ made lookups state)
          (GeneratorState.place?_adding setup callable _ made lookups' other)⟩
    · obtain ⟨hplain, htaken⟩ := Classical.not_imp.1 hfree
      obtain ⟨previous, hprevious⟩ := Option.ne_none_iff_exists'.1 htaken
      exact ⟨_, _, _, _, function_of_taken hmember hplain hprevious,
        function_of_taken hmember hplain ((hagree hplain).symm.trans hprevious),
        GeneratorState.gains_nil rfl, GeneratorState.gains_nil rfl, halike.refuse _ _ _⟩
  spares {name} hname state := by
    rcases hrun : (function setup callable (some o)).run.run state with ⟨error | bound, next⟩
    · rcases function_error hrun with ⟨-, -, rfl⟩ | ⟨previous, -, rfl⟩
      · rfl
      · exact GeneratorState.place?_refuse ..
    · obtain ⟨made, lookups, -, -, rfl, -, -⟩ := function_eq_ok hrun
      refine (GeneratorState.place?_adding ..).trans (if_neg ?_)
      rintro ⟨hplain, rfl⟩
      exact hname (h hplain)

/-- The blocks that closing a class adds. -/
def closedBlocks (setup : Setup) (o : OpenClass) (data : List String) : Blocks
  | .types => derivedTypes setup o data
  | .publics => if setup.config.proxyClasses then [[o.name]] else []
  | .wrappers | .interfaces | .routines | .bindings => []

/-- What closing a class adds is the same from all states with sound answers. -/
theorem exists_closed (setup : Setup) {o : OpenClass} (ho : o.cls.HasPlainName) :
    ∃ data, ∀ state, IsSound setup state → ∃ next,
      (closeClass setup o).run.run state = (.ok (), next) ∧ IsSound setup next ∧
      state.Gains next (closedBlocks setup o data) ∧
      ∀ name, next.place? name = state.place? name := by
  obtain ⟨data, hdata⟩ := exists_data setup ho o.cls.location
  refine ⟨data, fun state hs => ?_⟩
  obtain ⟨lookups, hrun, hsound⟩ := hdata state hs
  unfold closeClass closedBlocks derivedTypes
  split
  · refine ⟨_, run_bind_of_ok hrun, hsound, ?_, ?_⟩
    · rintro (_ | _)
      all_goals simp [GeneratorState.blocks]
    · rintro (_ | _)
      all_goals rfl
  · refine ⟨state, rfl, hs, fun stream => ?_, fun _ => rfl⟩
    cases stream <;> exact (List.append_nil _).symm

/-- **Closing a class** is uniform. It gives away no name. -/
theorem closeClass_isUniform {o : OpenClass} (ho : o.cls.HasPlainName) :
    IsUniform setup names (closeClass setup o) where
  same {state other} halike := by
    obtain ⟨data, hdata⟩ := exists_closed setup ho
    obtain ⟨next, hrun, hsound, hgains, hplaces⟩ := hdata state halike.sound
    obtain ⟨next', hrun', hsound', hgains', hplaces'⟩ := hdata other halike.sound'
    refine ⟨_, _, _, _, hrun, hrun', hgains, hgains', hsound, hsound', fun name hname => ?_⟩
    rw [hplaces, hplaces', halike.agree name hname]
  spares {name} _ state := by
    obtain ⟨data, lookups, hrun⟩ := closeClass_eq setup o state
    rw [hrun]
    cases name <;> rfl

end Generate

end FortranBindings
