import FortranBindings.Proofs.Generator.Arguments
import FortranBindings.Proofs.Generator.Lookups
import FortranBindings.Proofs.Registry.Names

/-!
# What a step of generation comes to

Generating a callable comes to one of three things: a member outside of a class is refused, a
wrapper name that is taken is reported, or the callable is added to the module
(`Generate.function_outcome`). The first two happen before anything else is done, and nothing fails
afterwards. Opening a class is refused if the name of its derived type is taken, and the steps that
follow do not fail (`Generate.openClass_of_taken`, `Generate.members_run_past`,
`Generate.cls_run`).
-/

namespace FortranBindings

/-- A name that only one definition of a module may have. -/
inductive UniqueName
  /-- The name of the wrapper of a callable that is not overloaded. -/
  | wrapper (name : String)
  /-- The name of the derived type of a class. -/
  | derivedType (name : String)
  deriving DecidableEq

namespace UniqueName

/-- The report that a name was given away before. -/
def report (location previous : Location) : UniqueName → Diagnostic
  | wrapper name => ⟨.duplicateSymbol, location,
      "\"" ++ name ++ "\" is already defined at " ++ previous.display⟩
  | derivedType name => ⟨.duplicateClass, location,
      "class \"" ++ name ++ "\" is already defined at " ++ previous.display⟩

theorem isError_report (name : UniqueName) (location previous : Location) :
    (name.report location previous).kind.isError = true := by
  cases name <;> rfl

end UniqueName

namespace GeneratorState

/-- The place where a name was given away. -/
def place? (state : GeneratorState) : UniqueName → Option Location
  | .wrapper name => state.functionSymbols.find? name
  | .derivedType name => state.classSymbols.find? name

/-- The state after a name was refused. -/
def refuse (state : GeneratorState) (name : UniqueName) (location previous : Location) :
    GeneratorState :=
  { state with lookups := state.lookups.report (name.report location previous) }

end GeneratorState

namespace Generate

variable {setup : Setup} {α β : Type} {state next : GeneratorState}

/-! ## Running steps one after the other -/

theorem run_bind_of_ok {step : Generate α} {f : α → Generate β} {a : α}
    (h : step.run.run state = (.ok a, next)) :
    (step >>= f).run.run state = (f a).run.run next := by
  rw [ExceptT.run_bind, StateT.run_bind, h]
  rfl

theorem run_bind_of_error {step : Generate α} {f : α → Generate β} {error : GenerateError}
    (h : step.run.run state = (.error error, next)) :
    (step >>= f).run.run state = (.error error, next) := by
  rw [ExceptT.run_bind, StateT.run_bind, h]
  rfl

theorem orSkip_of_ok {step : Generate α} {a : α} (h : step.run.run state = (.ok a, next))
    (fallback : α) (wrap : GenerateError → GenerateError) :
    (orSkip step fallback wrap).run.run state = (.ok a, next) := by
  rw [orSkip, ExceptT.run_tryCatch, StateT.run_bind, h]
  rfl

/-- A step that skips its declaration gives the fallback. -/
theorem orSkip_of_skip {step : Generate α} {error : GenerateError}
    (h : step.run.run state = (.error error, next)) (hskip : error.isSkip = true) (fallback : α)
    (wrap : GenerateError → GenerateError) :
    (orSkip step fallback wrap).run.run state = (.ok fallback, next) := by
  have hhandle : (if error.isSkip then pure fallback else throw (wrap error) :
      Generate α).run.run next = (.ok fallback, next) := by
    rw [if_pos hskip]
    rfl
  rw [orSkip, ExceptT.run_tryCatch, StateT.run_bind, h]
  exact hhandle

theorem orSkip_of_error {step : Generate α} {error : GenerateError}
    (h : step.run.run state = (.error error, next)) (hskip : error.isSkip = false) (fallback : α)
    (wrap : GenerateError → GenerateError) :
    (orSkip step fallback wrap).run.run state = (.error (wrap error), next) := by
  have hhandle : (if error.isSkip then pure fallback else throw (wrap error) :
      Generate α).run.run next = (.error (wrap error), next) := by
    rw [hskip]
    rfl
  rw [orSkip, ExceptT.run_tryCatch, StateT.run_bind, h]
  exact hhandle

/-! ## Bridges -/

/-- The names of wrappers with the one of a callable taken, unless it is overloaded. -/
def symbolsWith (setup : Setup) (callable : Callable) (owner : Option Class)
    (symbols : Symbols) : Symbols :=
  if callable.isOverloaded then symbols
  else symbols.insert (wrapperName setup callable owner) callable.location

/-- The bridge is one that is made for a callable, under the name of its wrapper. -/
structure IsBridgeOf (setup : Setup) (callable : Callable) (owner : Option Class)
    (bridge : Bridge) : Prop where
  name : bridge.name = wrapperName setup callable owner
  interface_name : bridge.interface.name = wrapperName setup callable owner
  made : ∃ lookups, ((Bridge.make setup.sources callable owner
    (wrapperName setup callable owner)).run.run lookups).1 = .ok bridge

theorem ofFailingLookup_run (lookup : ExceptT GenerateError Lookup α) (state : GeneratorState) :
    (ofFailingLookup lookup).run.run state = ((lookup.run.run state.lookups).1,
      { state with lookups := (lookup.run.run state.lookups).2 }) := by
  have hlookup : (ofLookup lookup.run).run.run state = (.ok (lookup.run.run state.lookups).1,
      { state with lookups := (lookup.run.run state.lookups).2 }) := rfl
  rw [ofFailingLookup, run_bind_of_ok hlookup]
  cases (lookup.run.run state.lookups).1 <;> rfl

theorem takeSymbol_of_free {name : String} (h : state.functionSymbols.find? name = none)
    (location : Location) : (takeSymbol name location).run.run state =
      (.ok (), { state with functionSymbols := state.functionSymbols.insert name location }) := by
  have hget : (get : Generate GeneratorState).run.run state = (.ok state, state) := rfl
  rw [takeSymbol, run_bind_of_ok hget, Symbols.register, h]
  rfl

theorem takeSymbol_of_taken {name : String} {previous : Location}
    (h : state.functionSymbols.find? name = some previous) (location : Location) :
    (takeSymbol name location).run.run state =
      (.error (.duplicateSymbol name location previous),
        state.refuse (.wrapper name) location previous) := by
  have hget : (get : Generate GeneratorState).run.run state = (.ok state, state) := rfl
  rw [takeSymbol, run_bind_of_ok hget, Symbols.register, h]
  rfl

/-- If its name is free, the bridge of a callable is made, except for a constructor without a
class. -/
theorem bridge_of_free {callable : Callable} {owner : Option Class}
    (hkind : callable.kind = .constructor → owner.isSome)
    (hfree : callable.isOverloaded = false →
      state.functionSymbols.find? (wrapperName setup callable owner) = none) :
    ∃ made lookups, (bridge setup callable owner).run.run state =
        (.ok made, { state with
          functionSymbols := symbolsWith setup callable owner state.functionSymbols, lookups }) ∧
      IsBridgeOf setup callable owner made ∧ state.lookups.Extends lookups := by
  have hsucceeds : Succeeds (fun _ => True)
      (Bridge.make setup.sources callable owner (wrapperName setup callable owner))
      fun bridge => bridge.name = wrapperName setup callable owner :=
    Bridge.make_succeeds hkind _
  obtain ⟨⟨made, hmade, hname⟩, -⟩ := hsucceeds state.lookups trivial
  have hextends : state.lookups.Extends ((Bridge.make setup.sources callable owner
      (wrapperName setup callable owner)).run.run state.lookups).2 :=
    (Bridge.make_asks callable owner _).extends state.lookups
  have haligned := ((Bridge.make_ensures callable owner (wrapperName setup callable owner)
    state.lookups trivial).1 made hmade).1
  have hmake : ∀ symbols, (ofFailingLookup (Bridge.make setup.sources callable owner
      (wrapperName setup callable owner))).run.run { state with functionSymbols := symbols } =
        (.ok made, { state with functionSymbols := symbols, lookups := ((Bridge.make setup.sources
          callable owner (wrapperName setup callable owner)).run.run state.lookups).2 }) :=
    fun symbols => (ofFailingLookup_run _ _).trans (by rw [hmade])
  refine ⟨made, _, ?_, ⟨hname, haligned.interface_name.trans hname, _, hmade⟩, hextends⟩
  unfold bridge symbolsWith
  dsimp only
  cases hoverloaded : callable.isOverloaded with
  | true => exact hmake state.functionSymbols
  | false => exact (run_bind_of_ok (takeSymbol_of_free (hfree hoverloaded) _)).trans (hmake _)

theorem bridge_of_taken {callable : Callable} {owner : Option Class} {previous : Location}
    (hplain : callable.isOverloaded = false)
    (htaken : state.functionSymbols.find? (wrapperName setup callable owner) = some previous) :
    (bridge setup callable owner).run.run state =
      (.error (.duplicateSymbol (wrapperName setup callable owner) callable.location previous),
        state.refuse (.wrapper (wrapperName setup callable owner)) callable.location
          previous) := by
  unfold bridge
  dsimp only
  rw [hplain]
  exact run_bind_of_error (takeSymbol_of_taken htaken _)

/-! ## Making bridges accessible -/

/-- The open class, with the name of its derived type. -/
def ownerOf (opened : Option OpenClass) : Option (Class × String) :=
  opened.map fun o => (o.cls, o.name)

theorem map_fst_ownerOf (opened : Option OpenClass) :
    (ownerOf opened).map (·.1) = opened.map OpenClass.cls := by
  rw [ownerOf, Option.map_map]
  rfl

/-- From one state to the other nothing was done but to look templates up and to make something
accessible: by a routine, by a group of overloads or by an export. -/
structure Exposes (state next : GeneratorState) : Prop where
  functionSymbols : next.functionSymbols = state.functionSymbols
  classSymbols : next.classSymbols = state.classSymbols
  bindings : next.bindings = state.bindings
  wrappers : next.parts.wrappers = state.parts.wrappers
  interfaces : next.parts.interfaces = state.parts.interfaces
  types : next.parts.types = state.parts.types
  lookups : state.lookups.Extends next.lookups
  nodup_overloads : state.parts.overloads.names.Nodup → next.parts.overloads.names.Nodup

namespace Exposes

protected theorem trans {last : GeneratorState} (h : Exposes state next)
    (h' : Exposes next last) : Exposes state last where
  functionSymbols := h'.functionSymbols.trans h.functionSymbols
  classSymbols := h'.classSymbols.trans h.classSymbols
  bindings := h'.bindings.trans h.bindings
  wrappers := h'.wrappers.trans h.wrappers
  interfaces := h'.interfaces.trans h.interfaces
  types := h'.types.trans h.types
  lookups := h.lookups.trans h'.lookups
  nodup_overloads := h'.nodup_overloads ∘ h.nodup_overloads

theorem withLookups {lookups : LookupState} (h : state.lookups.Extends lookups) :
    Exposes state { state with lookups } :=
  ⟨rfl, rfl, rfl, rfl, rfl, rfl, h, id⟩

theorem withParts (state : GeneratorState) {overloads : Overloads}
    (h : state.parts.overloads.names.Nodup → overloads.names.Nodup) (publics : List (List String))
    (routines : List Routine) :
    Exposes state { state with parts := { state.parts with publics, overloads, routines } } :=
  ⟨rfl, rfl, rfl, rfl, rfl, rfl, .refl _, h⟩

end Exposes

/-- The class with a member bound to a routine. -/
def bindMember (callable : Callable) (mode : ProxyMode) (routine : String) (opened : OpenClass) :
    OpenClass :=
  match callable.overload with
  | some overload =>
    opened.bindOverload (callable.bindingName mode) (callable.bindingBase mode ++ overload) routine
  | none => opened.bind ⟨false, callable.bindingName mode, routine⟩

theorem bindMember_cls (callable : Callable) (mode : ProxyMode) (routine : String)
    (opened : OpenClass) : (bindMember callable mode routine opened).cls = opened.cls := by
  unfold bindMember
  split <;> rfl

theorem bindMember_name (callable : Callable) (mode : ProxyMode) (routine : String)
    (opened : OpenClass) : (bindMember callable mode routine opened).name = opened.name := by
  unfold bindMember
  split <;> rfl

/-- The class with a member bound to its proxy, if there are proxies. -/
def withMember (setup : Setup) (opened : OpenClass) (callable : Callable) : OpenClass :=
  if setup.config.proxyClasses then
    bindMember callable (.ofKind callable.kind)
      (Proxy.routineName setup.config callable (some opened.cls)) opened
  else opened

/-- The open class has a member bound in it, and perhaps another finalizer. -/
def HasBound (setup : Setup) (callable : Callable) (opened bound : Option OpenClass) : Prop :=
  ∃ finalizer, bound = opened.map fun o => { withMember setup o callable with finalizer }

/-- Binding a member keeps the class that is open. -/
theorem HasBound.ownerOf {setup : Setup} {callable : Callable} {opened bound : Option OpenClass}
    (h : HasBound setup callable opened bound) : ownerOf bound = Generate.ownerOf opened := by
  obtain ⟨finalizer, rfl⟩ := h
  cases opened with
  | none => rfl
  | some o =>
    unfold withMember
    split
    · exact congrArg some (Prod.ext (bindMember_cls ..) (bindMember_name ..))
    · rfl

/-- Binding a proxy binds it in the class that is open, and adds no routine. -/
theorem bindProxy_run (callable : Callable) (mode : ProxyMode) (name : String)
    (opened : Option OpenClass) (state : GeneratorState) :
    ∃ next, (bindProxy callable mode name opened).run.run state =
        (.ok (opened.map (bindMember callable mode name)), next) ∧ Exposes state next ∧
      next.parts.routines = state.parts.routines := by
  cases opened with
  | some o =>
    unfold bindProxy Option.map bindMember
    cases callable.overload with
    | some overload => exact ⟨state, rfl, .withLookups (.refl _), rfl⟩
    | none => exact ⟨state, rfl, .withLookups (.refl _), rfl⟩
  | none =>
    unfold bindProxy
    cases callable.isOverloaded with
    | true => exact ⟨_, rfl, .withParts state (Overloads.nodup_names_record · _ _) _ _, rfl⟩
    | false => exact ⟨_, rfl, .withParts state id _ _, rfl⟩

theorem ofLookup_run (lookup : Lookup α) (state : GeneratorState) :
    (ofLookup lookup).run.run state = (.ok (lookup.run state.lookups).1,
      { state with lookups := (lookup.run state.lookups).2 }) :=
  rfl

theorem proxy_step (setup : Setup) (callable : Callable) (mode : ProxyMode) (bridge : Bridge)
    (opened : Option OpenClass) (state : GeneratorState) :
    ∃ made next, (proxy setup callable mode bridge opened).run.run state =
        (.ok (made, opened.map (bindMember callable mode made.routine.name)), next) ∧
      made.routine.name = Proxy.routineName setup.config callable (opened.map OpenClass.cls) ∧
      Exposes state next ∧ next.parts.routines = state.parts.routines := by
  let lookup := Proxy.make setup.sources setup.config callable mode bridge (ownerOf opened)
  have hmake : (ofLookup lookup).run.run state = _ := ofLookup_run lookup state
  have hextends : state.lookups.Extends (lookup.run state.lookups).2 :=
    (Proxy.make_asks setup.config callable mode bridge (ownerOf opened)).extends state.lookups
  obtain ⟨next, hbind, hnext, hroutines⟩ := bindProxy_run callable mode
    (lookup.run state.lookups).1.routine.name opened
    { state with lookups := (lookup.run state.lookups).2 }
  refine ⟨(lookup.run state.lookups).1, next, ?_, ?_,
    (Exposes.withLookups hextends).trans hnext, hroutines⟩
  · exact (run_bind_of_ok hmake).trans (run_bind_of_ok hbind)
  · rw [Proxy.name_make, map_fst_ownerOf]

theorem finalizer_run (setup : Setup) (opened : OpenClass) (bridge : Bridge)
    (state : GeneratorState) :
    ∃ routine next, (finalizer setup opened bridge).run.run state =
      (.ok { opened with finalizer := routine }, next) ∧ Exposes state next := by
  have hextends : state.lookups.Extends ((Proxy.makeFinalizer setup.sources setup.config
      opened.cls opened.name bridge).run state.lookups).2 :=
    (Proxy.makeFinalizer_asks setup.config opened.cls opened.name bridge).extends state.lookups
  exact ⟨_, _, rfl, (Exposes.withLookups hextends).trans (.withParts _ id _ _)⟩

/-- The name of the proxy that a callable gets, if it gets one. -/
def proxyName? (setup : Setup) (callable : Callable) (owner : Option Class) : Option String :=
  if setup.config.proxyClasses then some (Proxy.routineName setup.config callable owner) else none

/-- Adding a proxy adds its routine; without finalizers it adds no other one. -/
theorem addProxy_run (hproxies : setup.config.proxyClasses = true) (callable : Callable)
    (bridge : Bridge) (opened : Option OpenClass) (state : GeneratorState) :
    ∃ bound next, (addProxy setup callable bridge opened).run.run state =
        (.ok (Proxy.routineName setup.config callable (opened.map OpenClass.cls), bound), next) ∧
      HasBound setup callable opened bound ∧ Exposes state next ∧
      (setup.config.finalizers = false → next.parts.routines.map Routine.name =
        state.parts.routines.map Routine.name ++
          [Proxy.routineName setup.config callable (opened.map OpenClass.cls)]) := by
  obtain ⟨made, next, hproxy, hname, hnext, hroutines⟩ :=
    proxy_step setup callable (ProxyMode.ofKind callable.kind) bridge opened state
  let added : GeneratorState :=
    { next with parts := { next.parts with routines := next.parts.routines ++ [made.routine] } }
  have hadd : (addParts fun p => { p with routines := p.routines ++ [made.routine] }).run.run
      next = (.ok (), added) := rfl
  have hadded : Exposes state added := hnext.trans (.withParts next id _ _)
  have hnames : added.parts.routines.map Routine.name = state.parts.routines.map Routine.name ++
      [Proxy.routineName setup.config callable (opened.map OpenClass.cls)] := by
    rw [List.map_append, hroutines, List.map_singleton, hname]
  unfold addProxy
  dsimp only
  rw [run_bind_of_ok hproxy]
  dsimp only
  rw [run_bind_of_ok hadd, hname]
  cases opened with
  | none => exact ⟨none, added, rfl, ⟨none, rfl⟩, hadded, fun _ => hnames⟩
  | some o =>
    have hbound : withMember setup o callable = bindMember callable (.ofKind callable.kind)
        (Proxy.routineName setup.config callable (some o.cls)) o := if_pos hproxies
    dsimp only [Option.map_some]
    rw [← hbound]
    by_cases hfinal : ProxyMode.ofKind callable.kind = .destructor ∧ setup.config.finalizers
    · obtain ⟨routine, last, hrun, hlast⟩ :=
        finalizer_run setup (withMember setup o callable) bridge added
      refine ⟨_, last, ?_, ⟨routine, rfl⟩, hadded.trans hlast, fun hno => ?_⟩
      · rw [if_pos hfinal, run_bind_of_ok hrun]
        rfl
      · rw [hno] at hfinal
        cases hfinal.2
    · refine ⟨_, added, ?_, ⟨(withMember setup o callable).finalizer, rfl⟩, hadded,
        fun _ => hnames⟩
      rw [if_neg hfinal]
      rfl

theorem expose_run (setup : Setup) (callable : Callable) (bridge : Bridge)
    (opened : Option OpenClass) (state : GeneratorState) :
    ∃ bound next, (expose setup callable bridge opened).run.run state =
        (.ok (proxyName? setup callable (opened.map OpenClass.cls), bound), next) ∧
      HasBound setup callable opened bound ∧ Exposes state next ∧
      (setup.config.finalizers = false → next.parts.routines.map Routine.name =
        state.parts.routines.map Routine.name ++
          (proxyName? setup callable (opened.map OpenClass.cls)).toList) := by
  unfold expose proxyName?
  split
  · next hproxies =>
    obtain ⟨bound, next, hrun, hbound, hnext, hroutines⟩ :=
      addProxy_run hproxies callable bridge opened state
    exact ⟨bound, next, run_bind_of_ok hrun, hbound, hnext, hroutines⟩
  · next hno =>
    have hbound : HasBound setup callable opened opened := by
      cases opened with
      | none => exact ⟨none, rfl⟩
      | some o => exact ⟨o.finalizer, by rw [Option.map_some, withMember, if_neg hno]⟩
    exact ⟨opened, _, rfl, hbound, .withParts state id _ _, fun _ => (List.append_nil _).symm⟩

/-! ## Callables -/

/-- What is noted about a callable that was generated. -/
def bindingOf (setup : Setup) (callable : Callable) (owner : Option Class) : Binding where
  name := callable.name
  className := owner.map Class.publicName
  wrapper := wrapperName setup callable owner
  proxy := proxyName? setup callable owner

/-- What is added to a module by a callable. -/
structure Adds (setup : Setup) (callable : Callable) (owner : Option Class)
    (state next : GeneratorState) : Prop where
  functionSymbols :
    next.functionSymbols = symbolsWith setup callable owner state.functionSymbols
  classSymbols : next.classSymbols = state.classSymbols
  lookups : state.lookups.Extends next.lookups
  bindings : next.bindings = state.bindings ++ [bindingOf setup callable owner]
  bridge : ∃ bridge, IsBridgeOf setup callable owner bridge ∧
    next.parts.wrappers = state.parts.wrappers ++ [bridge.wrapper] ∧
    next.parts.interfaces = state.parts.interfaces ++ [bridge.interface]
  types : next.parts.types = state.parts.types
  nodup_overloads : state.parts.overloads.names.Nodup → next.parts.overloads.names.Nodup
  routines : setup.config.finalizers = false → next.parts.routines.map Routine.name =
    state.parts.routines.map Routine.name ++ (proxyName? setup callable owner).toList

/-- What generating a callable can come to, with the state that it leaves. -/
inductive FunctionOutcome (setup : Setup) (callable : Callable) (opened : Option OpenClass)
    (state : GeneratorState) : Except GenerateError (Option OpenClass) × GeneratorState → Prop
  | outside (hmember : callable.kind.isMember = true) (hopened : opened = none) :
    FunctionOutcome setup callable opened state
      (.error (.memberOutsideClass callable.name), state)
  | taken {name : String} {previous : Location}
    (hname : name = wrapperName setup callable (opened.map OpenClass.cls))
    (hplain : callable.isOverloaded = false)
    (htaken : state.functionSymbols.find? name = some previous) :
    FunctionOutcome setup callable opened state
      (.error (.duplicateSymbol name callable.location previous),
        state.refuse (.wrapper name) callable.location previous)
  | added {bound : Option OpenClass} {next : GeneratorState}
    (hfree : callable.isOverloaded = false → state.functionSymbols.find?
      (wrapperName setup callable (opened.map OpenClass.cls)) = none)
    (hbound : HasBound setup callable opened bound)
    (hadds : Adds setup callable (opened.map OpenClass.cls) state next) :
    FunctionOutcome setup callable opened state (.ok bound, next)

theorem function_of_outside {callable : Callable} (hmember : callable.kind.isMember = true) :
    (function setup callable none).run.run state =
      (.error (.memberOutsideClass callable.name), state) := by
  unfold function
  dsimp only
  rw [if_pos ⟨hmember, rfl⟩]
  rfl

section

variable {callable : Callable} {opened : Option OpenClass}

/-- A member inside of a class, like a free function anywhere, is not refused. -/
theorem not_outside (hmember : callable.kind.isMember = true → opened.isSome) :
    ¬(callable.kind.isMember = true ∧ (opened.map OpenClass.cls).isNone = true) := by
  rintro ⟨hm, hnone⟩
  obtain ⟨o, rfl⟩ := Option.isSome_iff_exists.1 (hmember hm)
  cases hnone

/-- A constructor that is not refused has a class. -/
theorem isSome_of_constructor (hmember : callable.kind.isMember = true → opened.isSome)
    (h : callable.kind = .constructor) : (opened.map OpenClass.cls).isSome := by
  rw [Option.isSome_map]
  exact hmember (by rw [h]; rfl)

theorem function_of_taken {previous : Location}
    (hmember : callable.kind.isMember = true → opened.isSome)
    (hplain : callable.isOverloaded = false)
    (htaken : state.functionSymbols.find?
      (wrapperName setup callable (opened.map OpenClass.cls)) = some previous) :
    (function setup callable opened).run.run state =
      (.error (.duplicateSymbol (wrapperName setup callable (opened.map OpenClass.cls))
          callable.location previous),
        state.refuse (.wrapper (wrapperName setup callable (opened.map OpenClass.cls)))
          callable.location previous) := by
  unfold function
  dsimp only
  rw [if_neg (not_outside hmember)]
  exact run_bind_of_error (bridge_of_taken hplain htaken)

theorem function_of_free (hmember : callable.kind.isMember = true → opened.isSome)
    (hfree : callable.isOverloaded = false → state.functionSymbols.find?
      (wrapperName setup callable (opened.map OpenClass.cls)) = none) :
    ∃ bound next, (function setup callable opened).run.run state = (.ok bound, next) ∧
      HasBound setup callable opened bound ∧
      Adds setup callable (opened.map OpenClass.cls) state next := by
  obtain ⟨made, lookups, hbridge, hmade, hlookups⟩ :=
    bridge_of_free (isSome_of_constructor hmember) hfree
  let registered : GeneratorState :=
    { state with
      functionSymbols :=
        symbolsWith setup callable (opened.map OpenClass.cls) state.functionSymbols
      lookups }
  let bridged : GeneratorState :=
    { registered with parts :=
      { state.parts with
        wrappers := state.parts.wrappers ++ [made.wrapper]
        interfaces := state.parts.interfaces ++ [made.interface] } }
  have hadd : (addParts fun p =>
      { p with
        wrappers := p.wrappers ++ [made.wrapper]
        interfaces := p.interfaces ++ [made.interface] }).run.run registered =
      (.ok (), bridged) := rfl
  obtain ⟨bound, next, hexpose, hbound, hnext, hroutines⟩ :=
    expose_run setup callable made opened bridged
  refine ⟨bound, { next with bindings := next.bindings ++
    [bindingOf setup callable (opened.map OpenClass.cls)] }, ?_, hbound, ?_⟩
  · unfold function
    dsimp only
    rw [if_neg (not_outside hmember), run_bind_of_ok hbridge, run_bind_of_ok hadd,
      run_bind_of_ok hexpose]
    refine (run_bind_of_ok rfl).trans ?_
    rw [bindingOf, ← hmade.name]
    rfl
  · exact {
      functionSymbols := hnext.functionSymbols
      classSymbols := hnext.classSymbols
      lookups := hlookups.trans hnext.lookups
      bindings := congrArg (· ++ _) hnext.bindings
      bridge := ⟨made, hmade, hnext.wrappers, hnext.interfaces⟩
      types := hnext.types
      nodup_overloads := hnext.nodup_overloads
      routines := hroutines }

end

/-- **Generating a callable** is refused, reported or comes to an addition. -/
theorem function_outcome (setup : Setup) (callable : Callable) (opened : Option OpenClass)
    (state : GeneratorState) : FunctionOutcome setup callable opened state
      ((function setup callable opened).run.run state) := by
  by_cases houtside : callable.kind.isMember = true ∧ opened = none
  · obtain ⟨hmember, rfl⟩ := houtside
    rw [function_of_outside hmember]
    exact .outside hmember rfl
  · have hmember : callable.kind.isMember = true → opened.isSome := fun hm =>
      Option.isSome_iff_ne_none.2 fun hnone => houtside ⟨hm, hnone⟩
    by_cases hfree : callable.isOverloaded = false → state.functionSymbols.find?
        (wrapperName setup callable (opened.map OpenClass.cls)) = none
    · obtain ⟨bound, next, hrun, hbound, hadds⟩ := function_of_free hmember hfree
      rw [hrun]
      exact .added hfree hbound hadds
    · obtain ⟨hplain, htaken⟩ := Classical.not_imp.1 hfree
      obtain ⟨previous, hprevious⟩ := Option.ne_none_iff_exists'.1 htaken
      rw [function_of_taken hmember hplain hprevious]
      exact .taken rfl hplain hprevious

/-! ## Classes -/

theorem openClass_of_taken {cls : Class} {previous : Location}
    (h : state.classSymbols.find? cls.publicName = some previous) :
    (openClass cls).run.run state =
      (.error (.duplicateClass cls.publicName cls.location previous),
        state.refuse (.derivedType cls.publicName) cls.location previous) := by
  have hget : (get : Generate GeneratorState).run.run state = (.ok state, state) := rfl
  unfold openClass
  dsimp only
  rw [run_bind_of_ok hget, Symbols.register, h]
  rfl

/-- The lookups after a class was opened: its base classes are reported as ignored. -/
def remarkBases (cls : Class) (lookups : LookupState) : LookupState :=
  if cls.bases ≠ [] then lookups.report ⟨.unsupportedFeature, cls.location,
    "base classes of \"" ++ cls.name ++ "\" are ignored: " ++ ", ".intercalate cls.bases⟩
  else lookups

theorem remarkBases_extends (cls : Class) (lookups : LookupState) :
    lookups.Extends (remarkBases cls lookups) := by
  unfold remarkBases
  split
  · exact (LookupState.Extends.refl _).report rfl
  · exact .refl _

theorem openClass_of_free {cls : Class} (h : state.classSymbols.find? cls.publicName = none) :
    (openClass cls).run.run state = (.ok { cls, name := cls.publicName },
      { state with
        classSymbols := state.classSymbols.insert cls.publicName cls.location
        lookups := remarkBases cls state.lookups }) := by
  have hget : (get : Generate GeneratorState).run.run state = (.ok state, state) := rfl
  unfold openClass remarkBases
  dsimp only
  rw [run_bind_of_ok hget, Symbols.register, h]
  by_cases hbases : cls.bases ≠ []
  · rw [if_pos hbases, if_pos hbases]
    rfl
  · rw [if_neg hbases, if_neg hbases]
    rfl

theorem dataLines_run (setup : Setup) (className : String) (location : Location)
    (state : GeneratorState) :
    ∃ data lookups, (dataLines setup className location).run.run state =
        (.ok data, { state with lookups }) ∧ state.lookups.Extends lookups := by
  let request : Request :=
    { operation := "fdata", type := .named className, need := .required, location }
  exact ⟨_, _, rfl, (Lookup.code_extends request state.lookups (.refl _)).2⟩

/-- The derived type of a class with its data, if there are proxies. -/
def derivedTypes (setup : Setup) (opened : OpenClass) (data : List String) : List TypeBlock :=
  if setup.config.proxyClasses then [.derived opened data] else []

theorem closeClass_run (setup : Setup) (opened : OpenClass) (state : GeneratorState) :
    ∃ lookups data publics, (closeClass setup opened).run.run state = (.ok (), { state with
        lookups
        parts := { state.parts with
          types := state.parts.types ++ derivedTypes setup opened data, publics } }) ∧
      state.lookups.Extends lookups := by
  unfold closeClass derivedTypes
  split
  · obtain ⟨data, lookups, hdata, hlookups⟩ :=
      dataLines_run setup opened.cls.name opened.cls.location state
    exact ⟨lookups, data, _, run_bind_of_ok hdata, hlookups⟩
  · refine ⟨state.lookups, [], state.parts.publics, ?_, .refl _⟩
    rw [List.append_nil]
    rfl

/-- **The members of a class do not fail.** What holds of the members still to come, the open class
and the state holds in the end if every member that is left out and every one that is added keeps
it. -/
theorem members_run (cls : Class) (inv : List Callable → OpenClass → GeneratorState → Prop)
    (htaken : ∀ {callable rest opened state name previous},
      name = wrapperName setup callable (some opened.cls) → callable.isOverloaded = false →
      state.functionSymbols.find? name = some previous → inv (callable :: rest) opened state →
      inv rest opened (state.refuse (.wrapper name) callable.location previous))
    (hadds : ∀ {callable rest opened bound state next},
      (callable.isOverloaded = false → state.functionSymbols.find?
        (wrapperName setup callable (some opened.cls)) = none) →
      HasBound setup callable (some opened) (some bound) →
      Adds setup callable (some opened.cls) state next → inv (callable :: rest) opened state →
      inv rest bound next)
    {callables : List Callable} {opened : OpenClass} (h : inv callables opened state) :
    ∃ last next, (members setup cls callables opened).run.run state = (.ok last, next) ∧
      inv [] last next := by
  induction callables generalizing opened state with
  | nil => exact ⟨opened, state, rfl, h⟩
  | cons callable rest ih =>
    have houtcome := function_outcome setup callable (some opened) state
    generalize hrun : (function setup callable (some opened)).run.run state = result at houtcome
    cases houtcome with
    | outside _ hopened => cases hopened
    | taken hname hplain hfind =>
      obtain ⟨last, next, hmembers, hlast⟩ := ih (htaken hname hplain hfind h)
      refine ⟨last, next, ?_, hlast⟩
      rw [members, run_bind_of_ok (orSkip_of_skip hrun rfl _ _)]
      exact hmembers
    | added hfree hbound hadded =>
      next bound added =>
      obtain ⟨finalizer, rfl⟩ := hbound
      obtain ⟨last, next, hmembers, hlast⟩ := ih (hadds hfree ⟨finalizer, rfl⟩ hadded h)
      refine ⟨last, next, ?_, hlast⟩
      rw [members, run_bind_of_ok (orSkip_of_ok hrun _ _)]
      exact hmembers

/-- What holds of the members that were gone through, the open class and the state holds of all
members in the end. -/
theorem members_run_past (cls : Class) (inv : List Callable → OpenClass → GeneratorState → Prop)
    (htaken : ∀ {past callable opened state name previous},
      name = wrapperName setup callable (some opened.cls) → callable.isOverloaded = false →
      state.functionSymbols.find? name = some previous → inv past opened state →
      inv (past ++ [callable]) opened (state.refuse (.wrapper name) callable.location previous))
    (hadds : ∀ {past callable opened bound state next},
      (callable.isOverloaded = false → state.functionSymbols.find?
        (wrapperName setup callable (some opened.cls)) = none) →
      HasBound setup callable (some opened) (some bound) →
      Adds setup callable (some opened.cls) state next → inv past opened state →
      inv (past ++ [callable]) bound next)
    {opened : OpenClass} (h : inv [] opened state) :
    ∃ last next, (members setup cls cls.members opened).run.run state = (.ok last, next) ∧
      inv cls.members last next := by
  have hrun : ∃ last next, (members setup cls cls.members opened).run.run state =
      (.ok last, next) ∧ ∃ past, cls.members = past ++ [] ∧ inv past last next := by
    refine members_run cls
      (fun rest opened state => ∃ past, cls.members = past ++ rest ∧ inv past opened state)
      ?_ ?_ ⟨[], rfl, h⟩
    · rintro callable rest opened state name previous hname hplain hfind ⟨past, hpast, hinv⟩
      exact ⟨past ++ [callable], hpast.trans (List.append_cons ..),
        htaken hname hplain hfind hinv⟩
    · rintro callable rest opened bound state next hfree hbound hadded ⟨past, hpast, hinv⟩
      exact ⟨past ++ [callable], hpast.trans (List.append_cons ..),
        hadds hfree hbound hadded hinv⟩
  obtain ⟨last, next, hrun, past, hpast, hinv⟩ := hrun
  rw [List.append_nil] at hpast
  exact ⟨last, next, hrun, hpast ▸ hinv⟩

/-- A class with a name of its own is generated if its members are. -/
theorem cls_run {cls : Class} {last : OpenClass}
    (hfree : state.classSymbols.find? cls.publicName = none)
    (hmembers : (members setup cls cls.members { cls, name := cls.publicName }).run.run
      { state with
        classSymbols := state.classSymbols.insert cls.publicName cls.location
        lookups := remarkBases cls state.lookups } = (.ok last, next)) :
    ∃ lookups data publics, (Generate.cls setup cls).run.run state = (.ok (), { next with
        lookups
        parts := { next.parts with
          types := next.parts.types ++ derivedTypes setup last data, publics } }) ∧
      next.lookups.Extends lookups := by
  obtain ⟨lookups, data, publics, hclose, hlookups⟩ := closeClass_run setup last next
  have hopen := openClass_of_free hfree
  exact ⟨lookups, data, publics,
    (run_bind_of_ok hopen).trans ((run_bind_of_ok hmembers).trans hclose), hlookups⟩

end Generate

end FortranBindings
