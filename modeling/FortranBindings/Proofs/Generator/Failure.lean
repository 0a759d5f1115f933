import FortranBindings.Proofs.Generator.Arguments
import FortranBindings.Proofs.Generator.Outcome

/-!
# A failed step leaves the module as it was

A step for a callable or a class that fails changes nothing, apart from the one diagnostic for a
name that was given away before (`Generate.failed_step_keeps_state`).
-/

namespace FortranBindings.Generate

variable {setup : Setup} {state next : GeneratorState} {error : GenerateError}

/-- A callable that fails was a member outside of a class or had a name that was taken. -/
theorem function_error {callable : Callable} {opened : Option OpenClass}
    (h : (function setup callable opened).run.run state = (.error error, next)) :
    (error = .memberOutsideClass callable.name ∧ opened = none ∧ next = state) ∨
      ∃ previous, error = .duplicateSymbol (wrapperName setup callable (opened.map OpenClass.cls))
          callable.location previous ∧
        next = state.refuse (.wrapper (wrapperName setup callable (opened.map OpenClass.cls)))
          callable.location previous := by
  have houtcome := function_outcome setup callable opened state
  rw [h] at houtcome
  cases houtcome with
  | outside _ hopened => exact .inl ⟨rfl, hopened, rfl⟩
  | taken hname _ _ => exact .inr ⟨_, by rw [hname], by rw [hname]⟩

/-- A class with a new name does not fail. -/
theorem cls_of_free (setup : Setup) {cls : Class}
    (h : state.classSymbols.find? cls.publicName = none) : ∃ next,
      (Generate.cls setup cls).run.run state = (.ok (), next) := by
  obtain ⟨last, middle, hmembers, -⟩ :=
    members_run_past cls (fun _ _ _ => True) (fun _ _ _ _ => trivial) (fun _ _ _ _ => trivial)
      trivial
  obtain ⟨lookups', data, publics, hrun, -⟩ := cls_run h hmembers
  exact ⟨_, hrun⟩

/-- A class that fails had a name that was taken. -/
theorem cls_error {cls : Class}
    (h : (Generate.cls setup cls).run.run state = (.error error, next)) :
    ∃ previous, error = .duplicateClass cls.publicName cls.location previous ∧
      next = state.refuse (.derivedType cls.publicName) cls.location previous := by
  cases hfind : state.classSymbols.find? cls.publicName with
  | none =>
    obtain ⟨last, hrun⟩ := cls_of_free setup hfind
    rw [hrun] at h
    cases h
  | some previous =>
    have hrun : (Generate.cls setup cls).run.run state = _ :=
      run_bind_of_error (openClass_of_taken hfind)
    rw [hrun] at h
    cases h
    exact ⟨previous, rfl, rfl⟩

/-- **A failed step leaves the module as it was.** From every state, a callable that fails leaves
that very state if it is a member outside of a class, and otherwise one that differs by a report of
its taken name at the end of the diagnostics; if it is a member of an open class, the other members
go on with the class as it was. A class that fails leaves a state that differs by a report of its
taken name at the end of the diagnostics. -/
theorem failed_step_keeps_state (setup : Setup) (state : GeneratorState) :
    (∀ callable opened error next,
      (function setup callable opened).run.run state = (.error error, next) →
      ((error = .memberOutsideClass callable.name ∧ next = state) ∨
        ∃ previous message,
          error = .duplicateSymbol (wrapperName setup callable (opened.map OpenClass.cls))
            callable.location previous ∧
          next = { state with lookups := { state.lookups with diagnostics :=
            state.lookups.diagnostics ++ [⟨.duplicateSymbol, callable.location, message⟩] } }) ∧
      ∀ cls rest o, opened = some o →
        (members setup cls (callable :: rest) o).run.run state =
          (members setup cls rest o).run.run next) ∧
    (∀ cls error next, (Generate.cls setup cls).run.run state = (.error error, next) →
      ∃ previous message, error = .duplicateClass cls.publicName cls.location previous ∧
        next = { state with lookups := { state.lookups with diagnostics :=
          state.lookups.diagnostics ++ [⟨.duplicateClass, cls.location, message⟩] } }) := by
  refine ⟨fun callable opened error next h => ⟨?_, ?_⟩, fun cls error next h => ?_⟩
  · refine (function_error h).imp (fun ⟨herror, _, hnext⟩ => ⟨herror, hnext⟩) ?_
    rintro ⟨previous, herror, hnext⟩
    exact ⟨previous, _, herror, hnext⟩
  · rintro cls rest o rfl
    have hskip : error.isSkip = true := by
      rcases function_error h with ⟨_, hopened, _⟩ | ⟨previous, rfl, _⟩
      · cases hopened
      · rfl
    rw [members]
    exact run_bind_of_ok (orSkip_of_skip h hskip _ _)
  · obtain ⟨previous, herror, hnext⟩ := cls_error h
    exact ⟨previous, _, herror, hnext⟩

/-- A class with one method. -/
def sensor : Class where
  name := "Sensor"
  members := [{ name := "read", kind := .method true }]

/-- A module after a function and a class were generated. -/
def sensorState : GeneratorState :=
  ((function echoSetup hiddenLength none *> Generate.cls echoSetup sensor).run.run {}).2

theorem failed_step_keeps_state_of_repeated :
    sensorState.bindings.length = 2 ∧
    (∃ error next message,
      (function echoSetup hiddenLength none).run.run sensorState = (.error error, next) ∧
      next = { sensorState with lookups := { sensorState.lookups with diagnostics :=
        sensorState.lookups.diagnostics ++ [⟨.duplicateSymbol, {}, message⟩] } }) ∧
    (∃ error next message,
      (Generate.cls echoSetup sensor).run.run sensorState = (.error error, next) ∧
      next = { sensorState with lookups := { sensorState.lookups with diagnostics :=
        sensorState.lookups.diagnostics ++ [⟨.duplicateClass, {}, message⟩] } }) := by
  obtain ⟨hfunctions, hclasses⟩ := failed_step_keeps_state echoSetup sensorState
  refine ⟨by decide +kernel, ?_, ?_⟩
  · have htaken : sensorState.functionSymbols.find? (wrapperName echoSetup hiddenLength none) =
        some {} := by decide +kernel
    have hfailed : (function echoSetup hiddenLength none).run.run sensorState = _ :=
      function_of_taken nofun rfl htaken
    rcases (hfunctions hiddenLength none _ _ hfailed).1 with
      ⟨herror, _⟩ | ⟨_, message, _, hnext⟩
    · cases herror
    · exact ⟨_, _, message, hfailed, hnext⟩
  · have htaken : sensorState.classSymbols.find? sensor.publicName = some {} := by decide +kernel
    have hfailed : (Generate.cls echoSetup sensor).run.run sensorState = _ :=
      run_bind_of_error (openClass_of_taken htaken)
    obtain ⟨_, message, _, hnext⟩ := hclasses sensor _ _ hfailed
    exact ⟨_, _, message, hfailed, hnext⟩

end FortranBindings.Generate
