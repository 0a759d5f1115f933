import FortranBindings.Proofs.Template.History

/-!
# Computations that ask

What a request is answered with and what is kept for it depends on nothing but what was kept for it
before (`Lookup.respond`, `Lookup.find_respond`). A computation that does nothing but ask requests
of some sort (`Lookup.Asks`) keeps every invariant that these requests keep
(`Lookup.Asks.ensures`), and it gives the same value from all states that keep the same answers for
them (`Lookup.Asks.agree`).
-/

namespace FortranBindings

variable {sources : Sources} {ε α β : Type} {sort : Request → Prop} {request : Request}
  {state state' next next' : LookupState}

/-- What the answer to a request is kept under. -/
def Request.key (request : Request) : String × String :=
  (request.mainOperation, request.type.signature)

namespace LookupState

/-- The answer that is kept for a request. -/
def kept? (state : LookupState) (request : Request) : Option Answer :=
  state.answer? request.key.1 request.key.2

/-- What is kept after `state` is what was kept before, apart from the answer for one request. -/
def KeepsFor (request : Request) (kept : Option Answer) (state next : LookupState) : Prop :=
  ∀ other : Request, next.kept? other = if other.key = request.key then kept else state.kept? other

theorem KeepsFor.of_answers_eq {kept : Option Answer} (h : KeepsFor request kept state next)
    (ha : next'.answers = next.answers) : KeepsFor request kept state next' := by
  intro other
  rw [← h other, kept?, kept?, answer?, answer?, ha]

theorem KeepsFor.refl (request : Request) (state : LookupState) :
    KeepsFor request (state.kept? request) state state := by
  intro other
  split
  · next h => rw [kept?, kept?, h]
  · rfl

theorem KeepsFor.after {kept : Option Answer} (ha : next.answers = state.answers)
    (h : KeepsFor request kept next next') : KeepsFor request kept state next' := by
  intro other
  rw [h other, kept?, kept?, answer?, answer?, ha]

theorem keepsFor_keep (request : Request) (answer : Answer) (state : LookupState) :
    KeepsFor request (some answer) state
      (state.keep request.mainOperation request.type.signature answer) := by
  intro other
  have hkey : other.key = request.key ↔ other.key.1 = request.mainOperation ∧
      other.key.2 = request.type.signature := Prod.ext_iff
  simp only [kept?, answer?_keep, hkey]

/-- The states keep the same answers for the requests of a sort. -/
def AgreeOn (sort : Request → Prop) (state next : LookupState) : Prop :=
  ∀ request, sort request → state.kept? request = next.kept? request

theorem AgreeOn.trans (h : AgreeOn sort state next) (h' : AgreeOn sort next next') :
    AgreeOn sort state next' :=
  fun request hrequest => (h request hrequest).trans (h' request hrequest)

/-- States that agree on a sort of requests agree still when the same is kept for one of them. -/
theorem AgreeOn.keepsFor {kept : Option Answer} (h : AgreeOn sort state state')
    (hnext : KeepsFor request kept state next) (hnext' : KeepsFor request kept state' next') :
    AgreeOn sort next next' := by
  intro other hother
  rw [hnext other, hnext' other, h other hother]

/-- What is kept for a request is of no account for requests with other keys. -/
theorem AgreeOn.of_keepsFor {kept : Option Answer} (hkey : ∀ other, sort other →
    other.key ≠ request.key) (h : KeepsFor request kept state next) : AgreeOn sort state next := by
  intro other hother
  rw [h other, if_neg (hkey other hother)]

end LookupState

namespace Lookup

/-! ## One request -/

/-- The answer to a request and what is kept for it afterwards, by what was kept before. -/
def respond (sources : Sources) (request : Request) (kept : Option Answer) :
    Option Typemap × Option Answer :=
  match request.attached?, kept, request.need with
  | some typemap, _, _ => (some (named sources request.type typemap), kept)
  | none, some (.found typemap), _ => (some typemap, kept)
  | none, some (.placeholder _), .optional => (none, kept)
  | none, some (.placeholder typemap), .required => (some typemap, kept)
  | none, none, need =>
    match stored sources request, need with
    | .found typemap, _ => (some typemap, some (.found typemap))
    | .placeholder _, .optional => (none, none)
    | .placeholder typemap, .required => (some typemap, some (.placeholder typemap))

/-- What is done before an answer is given changes no kept answer. -/
theorem exists_withClassName_run (sources : Sources) (type : CxxType) (typemap : Typemap)
    (location : Location) (state : LookupState) :
    ∃ next, (withClassName sources type typemap location).run state =
      (named sources type typemap, next) ∧ next.answers = state.answers := by
  refine ⟨_, withClassName_run sources type typemap location state, ?_⟩
  split
  · exact LookupState.answers_naming ..
  · rfl

theorem searchStore_respond (sources : Sources) (ha : request.attached? = none)
    (hkept : state.kept? request = none) : ∃ next,
    (searchStore sources request).run state = ((respond sources request none).1, next) ∧
      LookupState.KeepsFor request (respond sources request none).2 state next := by
  unfold searchStore respond stored
  rw [ha]
  cases hfound : sources.search? request.operations request.type with
  | some typemap =>
    obtain ⟨next, hrun, hnext⟩ :=
      exists_withClassName_run sources request.type typemap request.location state
    refine ⟨_, ?_, (LookupState.keepsFor_keep request _ next).after hnext⟩
    rw [StateT.run_bind, hrun]
    rfl
  | none =>
    cases request.need with
    | optional =>
      have hrefl := LookupState.KeepsFor.refl request state
      rw [hkept] at hrefl
      exact ⟨state, rfl, hrefl⟩
    | required => exact ⟨_, rfl, (LookupState.keepsFor_keep request _ _).after rfl⟩

/-- **What a request does** to the kept answers, and its answer, depend on what was kept for it. -/
theorem find_respond (sources : Sources) (request : Request) (state : LookupState) : ∃ next,
    (find sources request).run state =
        ((respond sources request (state.kept? request)).1, next) ∧
      LookupState.KeepsFor request (respond sources request (state.kept? request)).2 state
        next := by
  have hrefl := LookupState.KeepsFor.refl request state
  cases ha : request.attached? with
  | some typemap =>
    obtain ⟨next, hrun, hnext⟩ :=
      exists_withClassName_run sources request.type typemap request.location state
    unfold find respond
    simp only [ha]
    refine ⟨next, ?_, hrefl.of_answers_eq hnext⟩
    rw [StateT.run_bind, hrun]
    rfl
  | none =>
    have hget : ∀ f : LookupState → Lookup (Option Typemap),
        (get >>= f).run state = (f state).run state := fun _ => rfl
    have hkey : state.answer? request.mainOperation request.type.signature =
        state.kept? request := rfl
    unfold find
    rw [ha]
    dsimp only
    rw [hget, hkey]
    cases hkept : state.kept? request with
    | none => exact searchStore_respond sources ha hkept
    | some answer =>
      rw [hkept] at hrefl
      unfold respond
      rw [ha]
      cases answer with
      | found typemap => exact ⟨state, rfl, hrefl⟩
      | placeholder typemap => cases request.need <;> exact ⟨state, rfl, hrefl⟩

/-! ## Asking requests of one sort -/

/-- The computation does nothing to the state but ask requests of a sort. -/
inductive Asks (sources : Sources) (sort : Request → Prop) : Lookup α → Prop
  | pure (a : α) : Asks sources sort (pure a)
  | ask {request : Request} {rest : Option Typemap → Lookup α} (h : sort request)
    (hrest : ∀ found, Asks sources sort (rest found)) :
    Asks sources sort (Lookup.find sources request >>= rest)

namespace Asks

protected theorem find (h : sort request) : Asks sources sort (find sources request) :=
  bind_pure (find sources request) ▸ ask h .pure

protected theorem bind {m : Lookup α} {f : α → Lookup β} (hm : Asks sources sort m)
    (hf : ∀ a, Asks sources sort (f a)) : Asks sources sort (m >>= f) := by
  induction hm with
  | pure a => exact pure_bind a f ▸ hf a
  | ask h _ ih => exact bind_assoc (m := Lookup) .. ▸ ask h ih

theorem mono {sort' : Request → Prop} {m : Lookup α} (hm : Asks sources sort m)
    (h : ∀ request, sort request → sort' request) : Asks sources sort' m := by
  induction hm with
  | pure a => exact .pure a
  | ask hrequest _ ih => exact .ask (h _ hrequest) ih

protected theorem code (h : sort request) : Asks sources sort (code sources request) :=
  (Asks.find h).bind fun _ => .pure _

protected theorem mapM {f : α → Lookup β} {xs : List α}
    (h : ∀ x ∈ xs, Asks sources sort (f x)) : Asks sources sort (xs.mapM f) := by
  induction xs with
  | nil => exact .pure []
  | cons x xs ih =>
    rw [List.mapM_cons]
    refine (h x List.mem_cons_self).bind fun y => ?_
    exact (ih fun x' hx' => h x' (List.mem_cons_of_mem _ hx')).bind fun ys => .pure (y :: ys)

theorem run_bind {m : ExceptT ε Lookup α} {f : α → ExceptT ε Lookup β}
    (hm : Asks sources sort m.run) (hf : ∀ a, Asks sources sort (f a).run) :
    Asks sources sort (m >>= f).run := by
  rw [ExceptT.run_bind]
  refine hm.bind fun result => ?_
  cases result with
  | ok a => exact hf a
  | error e => exact .pure (Except.error e)

theorem run_lift {m : Lookup α} (hm : Asks sources sort m) :
    Asks sources sort (liftM m : ExceptT ε Lookup α).run :=
  hm.bind fun a => .pure (Except.ok a)

theorem run_liftExcept (result : Except ε α) :
    Asks sources sort (liftExcept result : ExceptT ε Lookup α).run := by
  cases result with
  | ok a => exact .pure (Except.ok a)
  | error e => exact .pure (Except.error e)

/-- What all requests of a sort keep is kept by asking them. -/
theorem ensures {inv : LookupState → Prop} {m : Lookup α} (hm : Asks sources sort m)
    (h : ∀ request, sort request → Ensures inv (Lookup.find sources request) fun _ => True) :
    Ensures inv m fun _ => True := by
  induction hm with
  | pure a => exact .pure trivial
  | ask hrequest _ ih => exact (h _ hrequest).bind fun found _ => ih found

/-- **Asking does the same** from states that keep the same answers for what is asked. -/
theorem agree {m : Lookup α} (hm : Asks sources sort m)
    (h : LookupState.AgreeOn sort state state') :
    (m.run state).1 = (m.run state').1 ∧
      LookupState.AgreeOn sort (m.run state).2 (m.run state').2 := by
  induction hm generalizing state state' with
  | pure a => exact ⟨rfl, h⟩
  | @ask request rest hrequest _ ih =>
    obtain ⟨next, hrun, hnext⟩ := find_respond sources request state
    obtain ⟨next', hrun', hnext'⟩ := find_respond sources request state'
    rw [← h request hrequest] at hrun' hnext'
    rw [StateT.run_bind, StateT.run_bind, hrun, hrun']
    exact ih _ (h.keepsFor hnext hnext')

end Asks

end Lookup

end FortranBindings
