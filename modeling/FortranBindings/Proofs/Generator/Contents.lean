import FortranBindings.Proofs.Generator.Outcome

/-!
# What a state holds

The contents of a module that is being generated, told by the declarations it was generated from:
one binding, one wrapper and one interface for each callable, one derived type for each class, and
the errors that were reported (`Generate.Holds`). Each step adds to them in one way.
-/

namespace FortranBindings

namespace TypeBlock

/-- The name of the derived type of a class. -/
def derivedName? : TypeBlock → Option String
  | derived cls _ => some cls.name
  | _ => none

/-- The name of the derived type that stands for a class which is not known. -/
def shellName? : TypeBlock → Option String
  | shell name _ => some name
  | _ => none

end TypeBlock

namespace Generate

/-- The state holds what was generated for the callables, each with its class, and for the classes
with these names. The derived types `openNames` of classes are still to be added; the types `shells`
stand for classes that are not known. -/
structure Holds (setup : Setup) (callables : List (Callable × Option Class))
    (classNames openNames shells : List String) (reports : List Diagnostic)
    (state : GeneratorState) : Prop where
  bindings : state.bindings = callables.map fun c => bindingOf setup c.1 c.2
  bridges : ∃ bridges,
    List.Forall₂ (fun c bridge => IsBridgeOf setup c.1 c.2 bridge) callables bridges ∧
    state.parts.wrappers = bridges.map Bridge.wrapper ∧
    state.parts.interfaces = bridges.map Bridge.interface
  errors : state.lookups.diagnostics.filter (·.kind.isError) = reports
  derivedNames : setup.config.proxyClasses = true →
    state.parts.types.filterMap TypeBlock.derivedName? ++ openNames = classNames
  shellNames : state.parts.types.filterMap TypeBlock.shellName? = shells
  nodup_overloads : state.parts.overloads.names.Nodup
  nodup_opaqueTypes : state.lookups.opaqueTypes.Nodup
  opaqueTypes : ∀ name ∈ state.lookups.opaqueTypes, ∃ type, name = placeholderName type
  routines : setup.config.finalizers = false → state.parts.routines.map Routine.name =
    callables.filterMap fun c => proxyName? setup c.1 c.2

theorem holds_initial (setup : Setup) : Holds setup [] [] [] [] [] {} where
  bindings := rfl
  bridges := ⟨[], .nil, rfl, rfl⟩
  errors := rfl
  derivedNames _ := rfl
  shellNames := rfl
  nodup_overloads := List.nodup_nil
  nodup_opaqueTypes := List.nodup_nil
  opaqueTypes := nofun
  routines _ := rfl

namespace Holds

variable {setup : Setup} {callables : List (Callable × Option Class)}
  {classNames openNames shells : List String} {reports : List Diagnostic}
  {state next : GeneratorState}

/-- Looking templates up adds nothing. -/
theorem withLookups (h : Holds setup callables classNames openNames shells reports state)
    {lookups : LookupState} (hlookups : state.lookups.Extends lookups) :
    Holds setup callables classNames openNames shells reports { state with lookups } where
  bindings := h.bindings
  bridges := h.bridges
  errors := hlookups.errors.trans h.errors
  derivedNames := h.derivedNames
  shellNames := h.shellNames
  nodup_overloads := h.nodup_overloads
  nodup_opaqueTypes := hlookups.nodup_opaqueTypes h.nodup_opaqueTypes
  opaqueTypes name hname := (hlookups.opaqueTypes name hname).elim (h.opaqueTypes name) id
  routines := h.routines

/-- Refusing a name adds its report. -/
theorem refuse (h : Holds setup callables classNames openNames shells reports state)
    (name : UniqueName) (location previous : Location) :
    Holds setup callables classNames openNames shells
      (reports ++ [name.report location previous]) (state.refuse name location previous) where
  bindings := h.bindings
  bridges := h.bridges
  errors := by
    change (_ ++ [_]).filter _ = _
    rw [List.filter_append, List.filter_singleton, name.isError_report, h.errors]
    rfl
  derivedNames := h.derivedNames
  shellNames := h.shellNames
  nodup_overloads := h.nodup_overloads
  nodup_opaqueTypes := h.nodup_opaqueTypes
  opaqueTypes := h.opaqueTypes
  routines := h.routines

/-- A callable adds what is made for it. -/
theorem added (h : Holds setup callables classNames openNames shells reports state)
    {callable : Callable} {owner : Option Class} (hadds : Adds setup callable owner state next) :
    Holds setup (callables ++ [(callable, owner)]) classNames openNames shells reports next := by
  obtain ⟨bridges, hbridges, hwrappers, hinterfaces⟩ := h.bridges
  obtain ⟨bridge, hbridge, hwrapper, hinterface⟩ := hadds.bridge
  exact {
    bindings := by
      rw [hadds.bindings, List.map_append, h.bindings]
      rfl
    bridges := by
      refine ⟨bridges ++ [bridge], List.rel_append hbridges (.cons hbridge .nil), ?_, ?_⟩
      · rw [hwrapper, hwrappers, List.map_append]
        rfl
      · rw [hinterface, hinterfaces, List.map_append]
        rfl
    errors := hadds.lookups.errors.trans h.errors
    derivedNames := by
      rw [hadds.types]
      exact h.derivedNames
    shellNames := by
      rw [hadds.types]
      exact h.shellNames
    nodup_overloads := hadds.nodup_overloads h.nodup_overloads
    nodup_opaqueTypes := hadds.lookups.nodup_opaqueTypes h.nodup_opaqueTypes
    opaqueTypes := fun name hname =>
      (hadds.lookups.opaqueTypes name hname).elim (h.opaqueTypes name) id
    routines := fun hno => by
      rw [hadds.routines hno, h.routines hno, List.filterMap_append, List.filterMap_cons]
      cases proxyName? setup callable owner <;> rfl }

/-- A class that is opened has its derived type still to come. -/
theorem opened (h : Holds setup callables classNames [] shells reports state) (name : String)
    (classSymbols : Symbols) : Holds setup callables (classNames ++ [name]) [name] shells reports
      { state with classSymbols } where
  bindings := h.bindings
  bridges := h.bridges
  errors := h.errors
  derivedNames hproxies := by
    rw [← h.derivedNames hproxies, List.append_nil]
  shellNames := h.shellNames
  nodup_overloads := h.nodup_overloads
  nodup_opaqueTypes := h.nodup_opaqueTypes
  opaqueTypes := h.opaqueTypes
  routines := h.routines

/-- Types are added, those of open classes among them. -/
theorem withTypes (h : Holds setup callables classNames openNames shells reports state)
    (blocks : List TypeBlock) (publics : List (List String)) {openNames' shells' : List String}
    (hderived : setup.config.proxyClasses = true →
      openNames = blocks.filterMap TypeBlock.derivedName? ++ openNames')
    (hshells : shells ++ blocks.filterMap TypeBlock.shellName? = shells') :
    Holds setup callables classNames openNames' shells' reports
      { state with parts :=
        { state.parts with types := state.parts.types ++ blocks, publics } } where
  bindings := h.bindings
  bridges := h.bridges
  errors := h.errors
  derivedNames hproxies := by
    rw [← h.derivedNames hproxies, hderived hproxies, List.filterMap_append, List.append_assoc]
  shellNames := by rw [List.filterMap_append, h.shellNames, hshells]
  nodup_overloads := h.nodup_overloads
  nodup_opaqueTypes := h.nodup_opaqueTypes
  opaqueTypes := h.opaqueTypes
  routines := h.routines

/-- Each wrapper has the name that was noted for it. -/
theorem map_name_wrappers (h : Holds setup callables classNames openNames shells reports state) :
    state.parts.wrappers.map Wrapper.name = state.bindings.map Binding.wrapper := by
  obtain ⟨bridges, hbridges, hwrappers, -⟩ := h.bridges
  have hnames : List.Forall₂ (· = ·) (callables.map fun c => wrapperName setup c.1 c.2)
      (bridges.map Bridge.name) := by
    rw [List.forall₂_map_left_iff, List.forall₂_map_right_iff]
    exact hbridges.imp fun _ _ hbridge => hbridge.name.symm
  rw [List.forall₂_eq_eq_eq] at hnames
  rw [h.bindings, hwrappers, List.map_map, List.map_map]
  exact hnames.symm

end Holds

end Generate

end FortranBindings
