import FortranBindings.Proofs.Generator.Contents

/-!
# What a step adds

Generating a callable comes to two things: its bridge, its proxy and perhaps a finalizer are made by
looking templates up (`Generate.make`), and what was made is added to the module
(`GeneratorState.adding`). Which of them fails is decided before (`Generate.function_of_made`,
`Generate.function_result`). Closing a class adds its derived type (`Generate.closeClass_eq`), and
at the end shells are added and nothing else (`Generate.shells_eq`).
-/

namespace FortranBindings

/-- A callable that is no member is no constructor. -/
theorem Callable.ne_constructor {callable : Callable} (h : callable.kind.isMember = false) :
    callable.kind ≠ .constructor := by
  intro hconstructor
  rw [hconstructor] at h
  cases h

namespace Generate

variable {setup : Setup} {callable : Callable} {opened : Option OpenClass}
  {state next : GeneratorState} {bridge : Bridge}

/-! ## Making -/

/-- What is made for a callable. -/
structure Made where
  bridge : Bridge
  /-- The routine that calls the bridge, if there are proxies. -/
  proxy? : Option Routine
  /-- The routine that releases the object of the open class. -/
  finalizer? : Option Routine

/-- Make the finalizer that the proxy of a callable comes with, if it comes with one. -/
def makeFinalizer? (setup : Setup) (callable : Callable) (bridge : Bridge) :
    Option OpenClass → Lookup (Option Routine)
  | some o =>
    if ProxyMode.ofKind callable.kind = .destructor ∧ setup.config.finalizers then
      some <$> Proxy.makeFinalizer setup.sources setup.config o.cls o.name bridge
    else return none
  | none => return none

/-- Make the routines that make a bridge accessible. -/
def makeRoutines (setup : Setup) (callable : Callable) (opened : Option OpenClass)
    (bridge : Bridge) : Lookup (Option Routine × Option Routine) :=
  if setup.config.proxyClasses then do
    let proxy ← Proxy.make setup.sources setup.config callable (.ofKind callable.kind) bridge
      (ownerOf opened)
    return (some proxy.routine, ← makeFinalizer? setup callable bridge opened)
  else return (none, none)

/-- Make what a callable needs. -/
def make (setup : Setup) (callable : Callable) (opened : Option OpenClass) :
    ExceptT GenerateError Lookup Made := do
  let owner := opened.map OpenClass.cls
  let bridge ← Bridge.make setup.sources callable owner (wrapperName setup callable owner)
  let (proxy?, finalizer?) ← (makeRoutines setup callable opened bridge : Lookup _)
  return { bridge, proxy?, finalizer? }

namespace Made

/-- The open class with the proxy of a member bound in it. -/
def bindIn (callable : Callable) (opened : OpenClass) (made : Made) : OpenClass :=
  match made.proxy? with
  | some proxy =>
    let bound := bindMember callable (.ofKind callable.kind) proxy.name opened
    { bound with finalizer := (made.finalizer?.map Routine.name).or bound.finalizer }
  | none => opened

section

variable {callable : Callable} {opened : OpenClass} {made : Made}

theorem bindIn_cls : (made.bindIn callable opened).cls = opened.cls := by
  unfold bindIn
  split
  · exact bindMember_cls ..
  · rfl

theorem bindIn_name : (made.bindIn callable opened).name = opened.name := by
  unfold bindIn
  split
  · exact bindMember_name ..
  · rfl

end

end Made

end Generate

namespace ModuleParts

/-- The parts of a module with the routine of a function that is no member made public: by itself,
or in a group if the function is overloaded. -/
def exposing (callable : Callable) (routine : String) (parts : ModuleParts) : ModuleParts :=
  if callable.isOverloaded then
    { parts with overloads := parts.overloads.record callable.publicName routine }
  else { parts with publics := parts.publics ++ [[routine]] }

/-- The parts of a module with the routines that were made for a callable. -/
def addingRoutines (callable : Callable) (owner : Option Class) (made : Generate.Made)
    (parts : ModuleParts) : ModuleParts :=
  match made.proxy? with
  | some proxy =>
    let exposed := if owner.isSome then parts else parts.exposing callable proxy.name
    { exposed with routines := parts.routines ++ proxy :: made.finalizer?.toList }
  | none => { parts with publics := parts.publics ++ [[made.bridge.name]] }

/-- The parts of a module with what was made for a callable. -/
def adding (callable : Callable) (owner : Option Class) (made : Generate.Made)
    (parts : ModuleParts) : ModuleParts :=
  { parts with
    wrappers := parts.wrappers ++ [made.bridge.wrapper]
    interfaces := parts.interfaces ++ [made.bridge.interface] }.addingRoutines callable owner made

section

variable {callable : Callable} {owner : Option Class} {made : Generate.Made} {proxy : Routine}
  {parts : ModuleParts}

theorem types_adding : (parts.adding callable owner made).types = parts.types := by
  unfold adding addingRoutines exposing
  split
  · split
    · rfl
    · split <;> rfl
  · rfl

theorem routines_adding (h : made.proxy? = some proxy) :
    (parts.adding callable owner made).routines =
      parts.routines ++ proxy :: made.finalizer?.toList := by
  rw [adding, addingRoutines, h]

theorem overloads_adding (h : made.proxy? = some proxy) :
    (parts.adding callable owner made).overloads =
      if owner.isNone ∧ callable.isOverloaded = true then
        parts.overloads.record callable.publicName proxy.name
      else parts.overloads := by
  rw [adding, addingRoutines, h]
  unfold exposing
  cases owner <;> cases callable.isOverloaded <;> rfl

theorem publics_adding (h : made.proxy? = some proxy) :
    (parts.adding callable owner made).publics =
      if owner.isNone ∧ callable.isOverloaded = false then parts.publics ++ [[proxy.name]]
      else parts.publics := by
  rw [adding, addingRoutines, h]
  unfold exposing
  cases owner <;> cases callable.isOverloaded <;> rfl

end

end ModuleParts

namespace GeneratorState

/-- The state with what was made for a callable, and the lookups that this took. -/
def adding (setup : Setup) (callable : Callable) (owner : Option Class) (made : Generate.Made)
    (lookups : LookupState) (state : GeneratorState) : GeneratorState where
  lookups := lookups
  functionSymbols := Generate.symbolsWith setup callable owner state.functionSymbols
  classSymbols := state.classSymbols
  parts := state.parts.adding callable owner made
  bindings := state.bindings ++
    [{ name := callable.name, className := owner.map Class.publicName,
       wrapper := made.bridge.name, proxy := made.proxy?.map Routine.name }]

end GeneratorState

namespace Generate

variable {setup : Setup} {callable : Callable} {opened : Option OpenClass}
  {state next : GeneratorState} {bridge : Bridge}

/-! ## Callables -/

theorem bridge_eq {owner : Option Class} (hfree : callable.isOverloaded = false →
      state.functionSymbols.find? (wrapperName setup callable owner) = none) :
    (Generate.bridge setup callable owner).run.run state =
      (((Bridge.make setup.sources callable owner (wrapperName setup callable owner)).run.run
          state.lookups).1,
        { state with
          functionSymbols := symbolsWith setup callable owner state.functionSymbols
          lookups := ((Bridge.make setup.sources callable owner
            (wrapperName setup callable owner)).run.run state.lookups).2 }) := by
  unfold Generate.bridge symbolsWith
  dsimp only
  cases hoverloaded : callable.isOverloaded with
  | true => exact ofFailingLookup_run _ state
  | false =>
    exact (run_bind_of_ok (takeSymbol_of_free (hfree hoverloaded) _)).trans
      (ofFailingLookup_run _ _)

theorem proxy_eq {mode : ProxyMode} {made : Proxy} {lookups : LookupState}
    (h : (Proxy.make setup.sources setup.config callable mode bridge (ownerOf opened)).run
      state.lookups = (made, lookups)) :
    (proxy setup callable mode bridge opened).run.run state =
      (.ok (made, opened.map (bindMember callable mode made.routine.name)), { state with
        lookups
        parts := if opened.isSome then state.parts
          else state.parts.exposing callable made.routine.name }) := by
  have hmake : (ofLookup (Proxy.make setup.sources setup.config callable mode bridge
      (ownerOf opened))).run.run state = (.ok made, { state with lookups }) := by
    rw [ofLookup_run, h]
  refine (run_bind_of_ok hmake).trans ?_
  unfold bindProxy
  cases opened with
  | none =>
    unfold ModuleParts.exposing
    cases callable.isOverloaded with
    | true => rfl
    | false => rfl
  | some o =>
    unfold Option.map bindMember
    cases callable.overload with
    | some overload => rfl
    | none => rfl

theorem finalizer_eq {o : OpenClass} {routine : Routine} {lookups : LookupState}
    (h : (Proxy.makeFinalizer setup.sources setup.config o.cls o.name bridge).run state.lookups =
      (routine, lookups)) :
    (finalizer setup o bridge).run.run state =
      (.ok { o with finalizer := some routine.name }, { state with
        lookups
        parts := { state.parts with routines := state.parts.routines ++ [routine] } }) := by
  have hmake : (ofLookup (Proxy.makeFinalizer setup.sources setup.config o.cls o.name
      bridge)).run.run state = (.ok routine, { state with lookups }) := by
    rw [ofLookup_run, h]
  exact run_bind_of_ok hmake

theorem addProxy_eq {made : Proxy} {finalizer? : Option Routine} {middle lookups : LookupState}
    (hmake : (Proxy.make setup.sources setup.config callable (.ofKind callable.kind) bridge
      (ownerOf opened)).run state.lookups = (made, middle))
    (hfinalizer : (makeFinalizer? setup callable bridge opened).run middle =
      (finalizer?, lookups)) :
    (addProxy setup callable bridge opened).run.run state =
      (.ok (made.routine.name,
          opened.map (Made.bindIn callable · ⟨bridge, some made.routine, finalizer?⟩)),
        { state with
          lookups
          parts := state.parts.addingRoutines callable (opened.map OpenClass.cls)
            ⟨bridge, some made.routine, finalizer?⟩ }) := by
  have hproxy := proxy_eq hmake
  unfold addProxy
  dsimp only
  rw [run_bind_of_ok hproxy]
  cases opened with
  | none =>
    cases hfinalizer
    unfold ModuleParts.addingRoutines ModuleParts.exposing
    cases callable.isOverloaded <;> rfl
  | some o =>
    dsimp only [makeFinalizer?] at hfinalizer
    dsimp only [Option.map_some]
    split at hfinalizer
    · next hdestructor =>
      -- The class is the same when the proxy is bound in it.
      let bound := bindMember callable (.ofKind callable.kind) made.routine.name o
      let added : GeneratorState :=
        { state with
          lookups := middle
          parts := { state.parts with routines := state.parts.routines ++ [made.routine] } }
      rcases hlast : (Proxy.makeFinalizer setup.sources setup.config bound.cls bound.name
        bridge).run added.lookups with ⟨routine, last⟩
      have hrun := finalizer_eq hlast
      rw [bindMember_cls, bindMember_name] at hlast
      rw [StateT.run_map, hlast] at hfinalizer
      cases hfinalizer
      have hadd : (addParts fun p => { p with routines := p.routines ++ [made.routine] }).run.run
          { state with lookups := middle } = (.ok (), added) := rfl
      refine (run_bind_of_ok hadd).trans ?_
      rw [if_pos hdestructor, run_bind_of_ok hrun, ModuleParts.addingRoutines,
        List.append_assoc]
      rfl
    · next hno =>
      cases hfinalizer
      rw [if_neg hno]
      rfl

/-- The bridge is made accessible by the routines that are made for it. -/
theorem expose_eq {made : Made} {lookups : LookupState}
    (h : (makeRoutines setup callable opened made.bridge).run state.lookups =
      ((made.proxy?, made.finalizer?), lookups)) :
    (expose setup callable made.bridge opened).run.run state =
      (.ok (made.proxy?.map Routine.name, opened.map (made.bindIn callable)),
        { state with
          lookups
          parts := state.parts.addingRoutines callable (opened.map OpenClass.cls) made }) := by
  obtain ⟨bridge, proxy?, finalizer?⟩ := made
  unfold makeRoutines at h
  unfold expose
  split at h
  · next hproxies =>
    rw [if_pos hproxies]
    dsimp only at h ⊢
    rcases hmake : (Proxy.make setup.sources setup.config callable (.ofKind callable.kind) bridge
      (ownerOf opened)).run state.lookups with ⟨proxy, middle⟩
    rcases hfinalizer : (makeFinalizer? setup callable bridge opened).run middle with ⟨last, final⟩
    have hrun : ((makeFinalizer? setup callable bridge opened).run middle >>= fun made =>
        pure ((some proxy.routine, made.1), made.2) : Id _) = ((proxy?, finalizer?), lookups) := by
      rw [← h, StateT.run_bind, hmake]
      rfl
    rw [hfinalizer] at hrun
    cases hrun
    rw [run_bind_of_ok (addProxy_eq hmake hfinalizer)]
    rfl
  · next hno =>
    rw [if_neg hno]
    cases h
    cases opened <;> rfl

/-- What is made for a callable is its bridge and the routines that belong to it. -/
theorem make_eq_ok {made : Made} {lookups last : LookupState}
    (h : (make setup callable opened).run.run lookups = (.ok made, last)) :
    ∃ middle, (Bridge.make setup.sources callable (opened.map OpenClass.cls)
        (wrapperName setup callable (opened.map OpenClass.cls))).run.run lookups =
          (.ok made.bridge, middle) ∧
      (makeRoutines setup callable opened made.bridge).run middle =
        ((made.proxy?, made.finalizer?), last) := by
  unfold make at h
  dsimp only at h
  rcases hbridge : (Bridge.make setup.sources callable (opened.map OpenClass.cls)
    (wrapperName setup callable (opened.map OpenClass.cls))).run.run lookups with ⟨result, middle⟩
  rw [ExceptT.run_bind, StateT.run_bind, hbridge] at h
  cases result with
  | error error => cases h
  | ok bridge =>
    rcases hroutines : (makeRoutines setup callable opened bridge).run middle with ⟨pair, final⟩
    -- What is left is the step that makes the routines.
    let finished (p : (Option Routine × Option Routine) × LookupState) :
        Except GenerateError Made × LookupState := (.ok ⟨bridge, p.1.1, p.1.2⟩, p.2)
    have hrun : finished ((makeRoutines setup callable opened bridge).run middle) =
        (.ok made, last) := h
    rw [hroutines] at hrun
    cases hrun
    exact ⟨middle, rfl, hroutines⟩

theorem isBridgeOf_of_make {owner : Option Class}
    (hkind : callable.kind = .constructor → owner.isSome) {lookups last : LookupState}
    (h : (Bridge.make setup.sources callable owner (wrapperName setup callable owner)).run.run
      lookups = (.ok bridge, last)) : IsBridgeOf setup callable owner bridge := by
  have hsucceeds : Succeeds (fun _ => True)
      (Bridge.make setup.sources callable owner (wrapperName setup callable owner))
      fun bridge => bridge.name = wrapperName setup callable owner :=
    Bridge.make_succeeds hkind _
  have hmade : ((Bridge.make setup.sources callable owner
      (wrapperName setup callable owner)).run.run lookups).1 = .ok bridge := by rw [h]
  obtain ⟨⟨other, hother, hname⟩, -⟩ := hsucceeds lookups trivial
  obtain rfl := Except.ok.inj (hmade.symm.trans hother)
  have haligned := ((Bridge.make_ensures callable owner (wrapperName setup callable owner)
    lookups trivial).1 bridge hmade).1
  exact ⟨hname, haligned.interface_name.trans hname, lookups, hmade⟩

theorem IsBridgeOf.parameters {owner : Option Class} (h : IsBridgeOf setup callable owner bridge) :
    bridge.parameters = callable.parametersIn owner := by
  obtain ⟨lookups, hmade⟩ := h.made
  exact ((Bridge.make_ensures callable owner (wrapperName setup callable owner) lookups trivial).1
    bridge hmade).2.1

/-- With proxies, the routine that is made for a callable is its proxy. -/
theorem proxy?_of_make (hproxies : setup.config.proxyClasses = true) {made : Made}
    {lookups last : LookupState}
    (h : (make setup callable opened).run.run lookups = (.ok made, last)) :
    ∃ middle, made.proxy? = some ((Proxy.make setup.sources setup.config callable
      (.ofKind callable.kind) made.bridge (ownerOf opened)).run middle).1.routine := by
  obtain ⟨middle, -, hroutines⟩ := make_eq_ok h
  rw [makeRoutines, if_pos hproxies] at hroutines
  exact ⟨middle, (congrArg (·.1.1) hroutines).symm⟩

/-- Nothing but its proxy is made for the bridge of a callable if there are no finalizers. -/
theorem finalizer?_of_make (hfinalizers : setup.config.finalizers = false) {made : Made}
    {lookups last : LookupState}
    (h : (make setup callable opened).run.run lookups = (.ok made, last)) :
    made.finalizer? = none := by
  obtain ⟨middle, -, hroutines⟩ := make_eq_ok h
  have hnone : ∀ lookups,
      ((makeFinalizer? setup callable made.bridge opened).run lookups).1 = none := by
    intro lookups
    cases opened with
    | none => rfl
    | some o =>
      rw [makeFinalizer?, hfinalizers, if_neg fun h => Bool.false_ne_true h.2]
      rfl
  unfold makeRoutines at hroutines
  split at hroutines
  · exact (congrArg (·.1.2) hroutines).symm.trans (hnone _)
  · exact (congrArg (·.1.2) hroutines).symm

/-- A callable is made, except for a constructor without a class. -/
theorem exists_make_eq_ok (setup : Setup)
    (hkind : callable.kind = .constructor → (opened.map OpenClass.cls).isSome)
    (lookups : LookupState) :
    ∃ made last, (make setup callable opened).run.run lookups = (.ok made, last) := by
  have hbridge : Succeeds (fun _ => True) (Bridge.make setup.sources callable
      (opened.map OpenClass.cls) (wrapperName setup callable (opened.map OpenClass.cls)))
      fun bridge => bridge.name = wrapperName setup callable (opened.map OpenClass.cls) :=
    Bridge.make_succeeds hkind _
  have hmake : Succeeds (fun _ => True) (make setup callable opened) fun _ => True :=
    hbridge.bind fun bridge _ => (Succeeds.lift .always).bind fun routines _ => .pure trivial
  obtain ⟨⟨made, hmade, -⟩, -⟩ := hmake lookups trivial
  exact ⟨made, _, Prod.ext hmade rfl⟩

/-- **A callable is generated** by adding what is made for it. -/
theorem function_of_made (hmember : callable.kind.isMember = true → opened.isSome)
    (hfree : callable.isOverloaded = false → state.functionSymbols.find?
      (wrapperName setup callable (opened.map OpenClass.cls)) = none) {made : Made}
    {lookups : LookupState}
    (hmake : (make setup callable opened).run.run state.lookups = (.ok made, lookups)) :
    (function setup callable opened).run.run state =
      (.ok (opened.map (made.bindIn callable)),
        state.adding setup callable (opened.map OpenClass.cls) made lookups) := by
  obtain ⟨middle, hmade, hroutines⟩ := make_eq_ok hmake
  let registered : GeneratorState :=
    { state with
      functionSymbols :=
        symbolsWith setup callable (opened.map OpenClass.cls) state.functionSymbols
      lookups := middle }
  have hbridge : (Generate.bridge setup callable (opened.map OpenClass.cls)).run.run state =
      (.ok made.bridge, registered) := by
    rw [bridge_eq hfree, hmade]
  let bridged : GeneratorState :=
    { registered with parts :=
      { state.parts with
        wrappers := state.parts.wrappers ++ [made.bridge.wrapper]
        interfaces := state.parts.interfaces ++ [made.bridge.interface] } }
  have hadd : (addParts fun p =>
      { p with
        wrappers := p.wrappers ++ [made.bridge.wrapper]
        interfaces := p.interfaces ++ [made.bridge.interface] }).run.run registered =
      (.ok (), bridged) := rfl
  have hexpose : (expose setup callable made.bridge opened).run.run bridged =
      (.ok (made.proxy?.map Routine.name, opened.map (made.bindIn callable)), { bridged with
        lookups
        parts := bridged.parts.addingRoutines callable (opened.map OpenClass.cls) made }) :=
    expose_eq hroutines
  unfold function
  dsimp only
  rw [if_neg (not_outside hmember), run_bind_of_ok hbridge, run_bind_of_ok hadd,
    run_bind_of_ok hexpose]
  rfl

/-- A callable that was generated had a free name, and what was made for it was added. -/
theorem function_eq_ok {bound : Option OpenClass}
    (h : (function setup callable opened).run.run state = (.ok bound, next)) :
    ∃ made lookups, (make setup callable opened).run.run state.lookups = (.ok made, lookups) ∧
      bound = opened.map (made.bindIn callable) ∧
      next = state.adding setup callable (opened.map OpenClass.cls) made lookups ∧
      (callable.kind.isMember = true → opened.isSome) ∧
      (callable.isOverloaded = false → state.functionSymbols.find?
        (wrapperName setup callable (opened.map OpenClass.cls)) = none) := by
  by_cases houtside : callable.kind.isMember = true ∧ opened = none
  · obtain ⟨hkind, rfl⟩ := houtside
    rw [function_of_outside hkind] at h
    cases h
  · have hmember : callable.kind.isMember = true → opened.isSome := fun hm =>
      Option.isSome_iff_ne_none.2 fun hnone => houtside ⟨hm, hnone⟩
    by_cases hfree : callable.isOverloaded = false → state.functionSymbols.find?
        (wrapperName setup callable (opened.map OpenClass.cls)) = none
    · obtain ⟨made, lookups, hmake⟩ :=
        exists_make_eq_ok setup (isSome_of_constructor hmember) state.lookups
      rw [function_of_made hmember hfree hmake] at h
      cases h
      exact ⟨made, lookups, hmake, rfl, rfl, hmember, hfree⟩
    · obtain ⟨hplain, htaken⟩ := Classical.not_imp.1 hfree
      obtain ⟨previous, hprevious⟩ := Option.ne_none_iff_exists'.1 htaken
      rw [function_of_taken hmember hplain hprevious] at h
      cases h

/-! ## Classes and shells -/

/-- The derived type of a class is added and made public, if there are proxies. -/
theorem closeClass_eq (setup : Setup) (o : OpenClass) (state : GeneratorState) :
    ∃ data lookups, (closeClass setup o).run.run state = (.ok (), { state with
        lookups
        parts := { state.parts with
          types := state.parts.types ++ derivedTypes setup o data
          publics := state.parts.publics ++
            if setup.config.proxyClasses then [[o.name]] else [] } }) := by
  unfold closeClass derivedTypes
  split
  · obtain ⟨data, lookups, hdata, -⟩ := dataLines_run setup o.cls.name o.cls.location state
    exact ⟨data, lookups, run_bind_of_ok hdata⟩
  · refine ⟨[], state.lookups, ?_⟩
    rw [List.append_nil, List.append_nil]
    rfl

/-- Shells are added for the names, and nothing else. -/
theorem shells_eq (setup : Setup) (names : List String) (state : GeneratorState) :
    ∃ blocks lookups, (shells setup names).run.run state = (.ok (), { state with
        lookups
        parts := { state.parts with types := state.parts.types ++ blocks } }) ∧
      blocks.map TypeBlock.shellName? = names.map some := by
  induction names generalizing state with
  | nil =>
    refine ⟨[], state.lookups, ?_, rfl⟩
    rw [List.append_nil]
    rfl
  | cons name names ih =>
    obtain ⟨data, lookups, hdata, -⟩ := dataLines_run setup name {} state
    obtain ⟨blocks, last, hrest, hblocks⟩ := ih
      { state with
        lookups
        parts := { state.parts with types := state.parts.types ++ [.shell name data] } }
    refine ⟨.shell name data :: blocks, last, ?_, congrArg (some name :: ·) hblocks⟩
    rw [shells, run_bind_of_ok hdata, List.append_cons]
    exact (run_bind_of_ok rfl).trans hrest

end Generate

end FortranBindings
