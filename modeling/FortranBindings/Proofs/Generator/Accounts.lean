import FortranBindings.Proofs.Generator.Description

/-!
# A module accounts for all declarations

Every declaration that generation gets to is either a part of the module, in order, or reported
once, with the place of the one that has its name (`Generate.generate_accounts`).
-/

namespace FortranBindings

/-- A module has errors if and only if a declaration is left out. -/
theorem GeneratedModule.hasErrors_iff {setup : Setup} {module : GeneratedModule}
    {verdicts : List Verdict}
    (herrors : module.diagnostics.filter (·.kind.isError) =
      verdicts.filterMap (Verdict.report? setup))
    (hreported : ∀ verdict ∈ verdicts, (verdict.report? setup).isSome = !verdict.isAccepted) :
    module.hasErrors = true ↔ ∃ verdict ∈ verdicts, verdict.isAccepted = false := by
  calc module.hasErrors = true
      ↔ ∃ error, error ∈ module.diagnostics.filter (·.kind.isError) := by
        simp [hasErrors, Diagnostic.anyError]
    _ ↔ ∃ verdict ∈ verdicts, (verdict.report? setup).isSome = true := by
        simp only [herrors, List.mem_filterMap, Option.isSome_iff_exists]
        grind
    _ ↔ ∃ verdict ∈ verdicts, verdict.isAccepted = false := by
        refine exists_congr fun verdict => and_congr_right fun hverdict => ?_
        rw [hreported verdict hverdict, Bool.not_eq_true']

open Generate in
/-- The module holds exactly the accepted declarations, and every other one is reported. -/
structure GeneratedModule.AccountsFor (setup : Setup) (module : GeneratedModule) : Prop where
  /-- All classes and all functions outside of classes are gone through once, in order. -/
  classes : setup.sources.decls.entries.filterMap Entry.class? = setup.sources.decls.classes
  functions : setup.sources.decls.entries.filterMap Entry.function? = setup.sources.decls.functions
  /-- The members of a class are gone through if and only if the class is accepted. -/
  members : ∀ before c, Entry.reach before (.cls c) = before ++ .cls c ::
    if (Ledger.judge setup before (.cls c)).isAccepted then c.members.map (.callable · (some c))
    else []
  /-- There is one verdict about each declaration. -/
  judged : (Ledger.verdicts setup setup.sources.decls.entries).map Verdict.entry =
    setup.sources.decls.entries
  due : ∀ before verdict after,
    Ledger.verdicts setup setup.sources.decls.entries = before ++ verdict :: after →
      verdict.IsDue setup before
  bindings : module.bindings = (Ledger.callables setup setup.sources.decls.entries).map
    fun c => bindingOf setup c.1 c.2
  /-- For each accepted callable there is one wrapper in the C++ source and one interface in the
  Fortran source. They are written out behind each other, in order. -/
  sources : ∃ bridges, List.Forall₂ (fun c bridge => IsBridgeOf setup c.1 c.2 bridge)
      (Ledger.callables setup setup.sources.decls.entries) bridges ∧
    (finalState setup).parts.wrappers = bridges.map Bridge.wrapper ∧
    (finalState setup).parts.interfaces = bridges.map Bridge.interface ∧
    module.HasLines {
      (finalState setup).parts.lines setup.sources.decls setup.config with
      wrappers := bridges.flatMap fun bridge => bridge.wrapper.lines
      interfaces := bridges.flatMap fun bridge => bridge.interface.lines } ∧
    (∀ bridge ∈ bridges, bridge.wrapper.render = Text.ofLines bridge.wrapper.lines ∧
      bridge.interface.render = Text.ofLines bridge.interface.lines) ∧
    String.join (bridges.map fun bridge => bridge.wrapper.render) =
      Text.ofLines (bridges.flatMap fun bridge => bridge.wrapper.lines) ∧
    String.join (bridges.map fun bridge => bridge.interface.render) =
      Text.ofLines (bridges.flatMap fun bridge => bridge.interface.lines) ∧
    module.name = setup.moduleName
  /-- The errors are the reports about the declarations that are left out, in order. -/
  errors : module.diagnostics.filter (·.kind.isError) =
    (Ledger.verdicts setup setup.sources.decls.entries).filterMap (Verdict.report? setup)
  reported : ∀ verdict ∈ Ledger.verdicts setup setup.sources.decls.entries,
    (verdict.report? setup).isSome = !verdict.isAccepted
  hasErrors : module.hasErrors = true ↔
    ∃ verdict ∈ Ledger.verdicts setup setup.sources.decls.entries, verdict.isAccepted = false

namespace Generate

/-- If the wrappers and the interfaces of a module are those of some bridges, the lines of these are
its lines. -/
theorem hasLines_of_bridges {setup : Setup} {state : GeneratorState} {bridges : List Bridge}
    (hwrappers : state.parts.wrappers = bridges.map Bridge.wrapper)
    (hinterfaces : state.parts.interfaces = bridges.map Bridge.interface) :
    (writtenOut setup state).HasLines {
      state.parts.lines setup.sources.decls setup.config with
      wrappers := bridges.flatMap fun bridge => bridge.wrapper.lines
      interfaces := bridges.flatMap fun bridge => bridge.interface.lines } := by
  have hlines := writtenOut_hasLines setup state
  rw [ModuleParts.lines, hwrappers, hinterfaces, List.flatMap_map, List.flatMap_map] at hlines
  exact hlines

/-- **No declaration is dropped or repeated.** If all functions outside of classes are free
functions, a module is generated, whatever the typemaps and the configuration are, and it accounts
for all declarations. -/
theorem generate_accounts (setup : Setup)
    (h : ∀ f ∈ setup.sources.decls.functions, f.kind = .freeFunction) :
    ∃ module, generate setup = .ok module ∧ module.AccountsFor setup := by
  obtain ⟨shells, hgenerate, hstate, -, -⟩ := generate_describes h
  obtain ⟨bridges, hbridges, hwrappers, hinterfaces⟩ := hstate.holds.bridges
  refine ⟨writtenOut setup (finalState setup), hgenerate, ?_⟩
  have hreported : ∀ verdict ∈ Ledger.verdicts setup setup.sources.decls.entries,
      (verdict.report? setup).isSome = !verdict.isAccepted :=
    fun _ => Ledger.isSome_report?_of_mem_verdicts
  exact {
    classes := setup.sources.decls.filterMap_class?_entries
    functions := setup.sources.decls.filterMap_function?_entries
    members := Ledger.reach_cls setup
    judged := Ledger.map_entry_verdicts setup _
    due := fun _ _ _ => Ledger.isDue_of_verdicts
    bindings := hstate.holds.bindings
    sources := ⟨bridges, hbridges, hwrappers, hinterfaces,
      hasLines_of_bridges hwrappers hinterfaces,
      fun _ _ => ⟨Wrapper.render_eq_ofLines _, BindInterface.render_eq_ofLines _⟩,
      Text.join_map_eq_ofLines (fun _ => Wrapper.render_eq_ofLines _) bridges,
      Text.join_map_eq_ofLines (fun _ => BindInterface.render_eq_ofLines _) bridges, rfl⟩
    errors := hstate.holds.errors
    reported := hreported
    hasErrors := GeneratedModule.hasErrors_iff hstate.holds.errors hreported }

/-- A library with a function that is declared again, a class with a method that is declared again,
a second class of its name, and two variants of a function. -/
def repeatedSetup : Setup where
  sources := ⟨
    { name := ""
      items := [
        .function { name := "reset", kind := .freeFunction },
        .cls { name := "Sensor", members := [read, read] },
        .function { name := "reset", kind := .freeFunction, location := { line := 7 } },
        .cls { name := "old::Sensor", members := [read] },
        .function { name := "mix", kind := .freeFunction, overload := some "_1" },
        .function { name := "mix", kind := .freeFunction, overload := some "_2" }] },
    fun _ _ => none⟩
  config := {}
where
  read : Callable := { name := "read", kind := .method true }

theorem generate_accounts_of_repeated : ∃ module, generate repeatedSetup = .ok module ∧
    module.AccountsFor repeatedSetup ∧ module.hasErrors = true ∧
    module.bindings.map Binding.wrapper =
      ["swigc_reset", "swigc_Sensor_read", "swigc_mix_1", "swigc_mix_2"] ∧
    (module.diagnostics.filter (·.kind.isError)).map Diagnostic.kind =
      [.duplicateSymbol, .duplicateSymbol, .duplicateClass] := by
  obtain ⟨made, hmade, haccounts⟩ := generate_accounts repeatedSetup (by decide)
  refine ⟨made, hmade, haccounts, ?_, ?_, ?_⟩
  · rw [haccounts.hasErrors]
    decide +kernel
  · rw [haccounts.bindings]
    decide +kernel
  · rw [haccounts.errors]
    decide +kernel

end Generate

end FortranBindings
