import FortranBindings.Proofs.Ensures
import FortranBindings.Proofs.Template.VoidResults
import FortranBindings.Bridge.Make

/-!
# The results of bridges

A wrapper has a local variable for the result if the declared type is not `void`, and it returns
something if the C type that is found for the result is not `void` (`Bridge.make_returns`). The
action that follows from the kind of a callable keeps the result in the variable, unless it is one
of a destructor or of a setter (`Callable.assigns_defaultAction_iff`).
-/

namespace FortranBindings

/-! ## Actions -/

/-- Does the action that follows from the kind keep a result? -/
def CallableKind.keepsResult : CallableKind → Bool
  | destructor | accessor _ .set => false
  | freeFunction | constructor | method _ | accessor _ .get => true

/-- The statement assigns the local variable for the result. -/
def AssignsResult (statement : String) : Prop :=
  ∃ value, statement = "result = " ++ value

namespace Callable

theorem assignsResult_callStatement {result : CxxType} (h : result.isVoid = false) (call : String)
    (held : Held) : AssignsResult (callStatement call result held) := by
  unfold callStatement
  rw [h]
  split
  · contradiction
  · split
    · refine ⟨"(" ++ held.type.signature ++ ") &" ++ call ++ ";", ?_⟩
      have hstart : "result = (" = "result = " ++ "(" := by decide
      simp only [hstart, String.append_assoc]
    · exact ⟨call ++ ";", String.append_assoc⟩

theorem not_assignsResult {statement : String} (h : statement.toList.head? ≠ some 'r') :
    ¬AssignsResult statement := by
  rintro ⟨value, rfl⟩
  exact h (by simp)

/-- **Which actions keep the result.** The statement that follows from the kind of a callable with a
result assigns the variable for it exactly if the kind is no destructor and no setter. -/
theorem assigns_defaultAction_iff {callable : Callable} {owner : Option Class} {helds : List Held}
    {result : CxxType} {resultHeld : Held} {action : String} (hresult : result.isVoid = false)
    (h : callable.defaultAction owner helds result resultHeld = .ok action) :
    AssignsResult action ↔ callable.kind.keepsResult = true := by
  have hcall (call : String) := assignsResult_callStatement hresult call resultHeld
  rw [defaultAction.eq_def] at h
  cases hkind : callable.kind with
  | freeFunction | method isConst =>
    rw [hkind] at h
    cases h
    exact iff_of_true (hcall _) rfl
  | constructor =>
    rw [hkind] at h
    cases owner with
    | some cls =>
      cases h
      exact iff_of_true (hcall _) rfl
    | none => cases h
  | destructor =>
    rw [hkind] at h
    cases h
    exact iff_of_false (not_assignsResult (by decide)) Bool.false_ne_true
  | accessor field role =>
    rw [hkind] at h
    cases role with
    | get =>
      cases h
      exact iff_of_true (hcall _) rfl
    | set =>
      cases h
      exact iff_of_false (not_assignsResult (by simp)) Bool.false_ne_true

end Callable

/-! ## Wrappers -/

/-- The wrapper has a local variable for the result. -/
def Wrapper.DeclaresResult (wrapper : Wrapper) : Prop :=
  "result" ∈ wrapper.locals.map (·.2)

namespace Bridge

variable {sources : Sources} {callable : Callable} {owner : Option Class} {name : String}
  {lookups : LookupState} {bridge : Bridge}

theorem localName_ne_result (number : Nat) : localName number ≠ "result" := by
  intro h
  have hfirst := congrArg (·.toList.head?) h
  simp [localName] at hfirst

/-- The variables for the parameters are not the one for the result. -/
theorem result_mem_locals_iff {slots : List Slot} {result : CxxType} {held : Held} :
    "result" ∈ (slots.map Slot.declaration ++
        if result.isVoid then [] else [(held.type.signature, "result")]).map (·.2) ↔
      result.isVoid = false := by
  have hslots : "result" ∉ (slots.map Slot.declaration).map (·.2) := by
    rw [List.map_map]
    intro hmem
    obtain ⟨slot, -, hslot⟩ := List.mem_map.1 hmem
    exact localName_ne_result slot.number hslot
  rw [List.map_append, List.mem_append, or_iff_right hslots]
  cases result.isVoid <;> simp

theorem run_lift_bind {σ ε α β : Type} (m : StateM σ α) (f : α → ExceptT ε (StateM σ) β)
    (state : σ) : ((liftM m : ExceptT ε (StateM σ) α) >>= f).run.run state =
      (f (m.run state).1).run.run (m.run state).2 := rfl

/-- The wrapper is declared with the C type that is found first of all, it has a variable for the
result exactly if the declared type is not `void`, and its code invokes the entity by the action of
the callable. -/
structure Returns (sources : Sources) (callable : Callable) (owner : Option Class)
    (lookups : LookupState) (bridge : Bridge) : Prop where
  returnType : bridge.wrapper.returnType =
    ((Lookup.code sources (Lookup.typeRequest "ctype" (some "out") (callable.resultIn owner)
      .required callable.location)).run lookups).1
  declaresResult_iff : bridge.wrapper.DeclaresResult ↔ (callable.resultIn owner).isVoid = false
  action : ∃ slots action, actionOf callable owner slots (callable.resultIn owner)
      (Held.ofResult sources.decls (callable.resultIn owner)) = .ok action ∧
    bridge.wrapper.action = actionLines callable action

theorem make_returns (h : ((make sources callable owner name).run.run lookups).1 = .ok bridge) :
    Returns sources callable owner lookups bridge := by
  unfold make at h
  dsimp only at h
  rw [run_lift_bind] at h
  -- The first lookup gives the C type; what comes after it is ensured from whatever state.
  refine (?_ : EnsuresOk (fun _ => True) _ _).of_run trivial h
  refine (EnsuresOk.lift Ensures.always).bind fun attachments _ => ?_
  refine (EnsuresOk.lift Ensures.always).bind fun cleanups _ => ?_
  refine (EnsuresOk.lift Ensures.always).bind fun parts _ => ?_
  refine (EnsuresOk.liftExcept_ok _).bind fun action haction => ?_
  refine (EnsuresOk.lift Ensures.always).bind fun output _ => ?_
  refine (EnsuresOk.lift Ensures.always).bind fun fortranResult _ => .pure ?_
  exact ⟨rfl, result_mem_locals_iff, _, action, haction, rfl⟩

end Bridge

end FortranBindings
