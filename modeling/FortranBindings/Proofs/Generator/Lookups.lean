import FortranBindings.Generator
import FortranBindings.Proofs.Generator.Requests
import FortranBindings.Proofs.Template.Keeping

/-!
# What lookups leave behind

Whatever is looked up, the only diagnostics that lookups report are warnings, and they name
placeholder classes only, none of them twice (`LookupState.Extends`, `Lookup.find_extends`). The
lookups for a bridge, a proxy and a finalizer are requests and nothing else, so this holds of them
as well (`Lookup.Asks.extends`). A bridge is always made, except for a constructor without a class
(`Bridge.make_succeeds`).
-/

namespace FortranBindings

variable {sources : Sources} {state : LookupState}

/-! ## Warnings -/

namespace LookupState

/-- Lookups may have led from one state to the other: no error was reported on the way, and the
names that were noted are those of placeholder classes, none of them twice. -/
structure Extends (state next : LookupState) : Prop where
  errors : next.diagnostics.filter (·.kind.isError) = state.diagnostics.filter (·.kind.isError)
  nodup_opaqueTypes : state.opaqueTypes.Nodup → next.opaqueTypes.Nodup
  opaqueTypes : ∀ name ∈ next.opaqueTypes,
    name ∈ state.opaqueTypes ∨ ∃ type, name = placeholderName type

namespace Extends

variable {next last : LookupState}

protected theorem refl (state : LookupState) : state.Extends state :=
  ⟨rfl, id, fun _ => .inl⟩

protected theorem trans (h : state.Extends next) (h' : next.Extends last) : state.Extends last :=
  ⟨h'.errors.trans h.errors, h'.nodup_opaqueTypes ∘ h.nodup_opaqueTypes, fun name hname =>
    (h'.opaqueTypes name hname).elim (h.opaqueTypes name) .inr⟩

theorem report (h : state.Extends next) {diagnostic : Diagnostic}
    (hkind : diagnostic.kind.isError = false) : state.Extends (next.report diagnostic) := by
  refine ⟨?_, h.nodup_opaqueTypes, h.opaqueTypes⟩
  rw [LookupState.report, List.filter_append, List.filter_singleton, hkind, h.errors]
  exact List.append_nil _

theorem noteOpaque (h : state.Extends next) (type : CxxType) :
    state.Extends (next.noteOpaque (placeholderName type)) := by
  unfold LookupState.noteOpaque
  split
  · exact h
  · next hname =>
    refine ⟨h.errors, fun hnodup => ?_, fun name hmem => ?_⟩
    · exact List.concat_eq_append ▸ (h.nodup_opaqueTypes hnodup).concat hname
    · exact (List.mem_append.1 hmem).elim (h.opaqueTypes name) fun hnew =>
        .inr ⟨type, List.mem_singleton.1 hnew⟩

theorem keep (h : state.Extends next) (operation signature : String) (answer : Answer) :
    state.Extends (next.keep operation signature answer) :=
  ⟨h.errors, h.nodup_opaqueTypes, h.opaqueTypes⟩

end Extends

end LookupState

namespace Lookup

/-- A lookup reports no error and notes no placeholder class twice. -/
theorem find_extends (request : Request) :
    Ensures state.Extends (find sources request) fun _ => True :=
  find_keeps
    { keep := fun _ _ _ _ h => h.keep _ _ _
      noteOpaque := fun _ _ h => h.noteOpaque _
      report := fun _ _ _ h => h.report rfl }
    fun _ _ _ h => h.report rfl

theorem code_extends (request : Request) :
    Ensures state.Extends (code sources request) fun _ => True :=
  (find_extends request).bind fun _ _ => .pure trivial

/-- What only asks reports no error and notes no placeholder class twice. -/
theorem Asks.extends {sort : Request → Prop} {α : Type} {m : Lookup α}
    (hm : Asks sources sort m) (state : LookupState) : state.Extends (m.run state).2 :=
  (hm.ensures (fun request _ => find_extends request) state (.refl state)).2

end Lookup

/-! ## Bridges -/

namespace Bridge

/-- There is code that invokes an entity, except for a constructor without a class. -/
theorem exists_actionOf_eq_ok {callable : Callable} {owner : Option Class}
    (h : callable.kind = .constructor → owner.isSome) (slots : List Slot) (result : CxxType)
    (held : Held) : ∃ action, actionOf callable owner slots result held = .ok action := by
  unfold actionOf
  split
  · exact ⟨_, rfl⟩
  · unfold Callable.defaultAction
    split
    · exact ⟨_, rfl⟩
    · next hkind =>
      obtain ⟨cls, rfl⟩ := Option.isSome_iff_exists.1 (h hkind)
      exact ⟨_, rfl⟩
    all_goals exact ⟨_, rfl⟩

/-- **A bridge is made** under its name, except for a constructor without a class. -/
theorem make_succeeds {callable : Callable} {owner : Option Class}
    (h : callable.kind = .constructor → owner.isSome) (name : String) :
    Succeeds (fun _ => True) (make sources callable owner name) fun bridge =>
      bridge.name = name := by
  unfold make
  refine (Succeeds.lift .always).bind fun returnType _ => ?_
  refine (Succeeds.lift .always).bind fun attachments _ => ?_
  refine (Succeeds.lift .always).bind fun cleanups _ => ?_
  refine (Succeeds.lift .always).bind fun parts _ => ?_
  obtain ⟨action, haction⟩ := exists_actionOf_eq_ok h
    (slotsOf sources.decls (callable.parametersIn owner) attachments) (callable.resultIn owner)
    (Held.ofResult sources.decls (callable.resultIn owner))
  refine (Succeeds.liftExcept haction).bind fun action _ => ?_
  refine (Succeeds.lift .always).bind fun output _ => ?_
  exact (Succeeds.lift .always).bind fun fortranResult _ => .pure rfl

end Bridge

/-! ## Proxies -/

namespace Proxy

theorem name_make (config : Config) (callable : Callable) (mode : ProxyMode) (bridge : Bridge)
    (owner : Option (Class × String)) :
    ((make sources config callable mode bridge owner).run state).1.routine.name =
      routineName config callable (owner.map (·.1)) := by
  have hmake : Ensures (fun _ => True) (make sources config callable mode bridge owner)
      fun proxy => proxy.routine.name = routineName config callable (owner.map (·.1)) := by
    unfold make
    refine Ensures.always.bind fun result _ => Ensures.always.bind fun parts _ => ?_
    exact Ensures.always.bind fun template _ => .pure rfl
  exact (hmake state trivial).1

end Proxy

end FortranBindings
