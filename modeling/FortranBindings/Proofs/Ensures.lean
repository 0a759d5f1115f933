import Mathlib.Data.List.Forall2

/-!
# Computations that keep an invariant

`Ensures inv m post` says of a computation with a state that, started where the invariant `inv`
holds, it gives a value with the property `post` and ends where `inv` holds again. It is proved
along the computation: `Ensures.bind` for one step after the other, `Ensures.mapM` for a loop over
a list. Of a computation that can fail, `EnsuresOk` says what holds if it does not fail, and
`Succeeds` that it does not.
-/

namespace FortranBindings

variable {σ ε α β : Type} {inv : σ → Prop}

/-- From every state with the invariant the computation gives a value with the property `post` and
leads to a state with the invariant. -/
def Ensures (inv : σ → Prop) (m : StateM σ α) (post : α → Prop) : Prop :=
  ∀ state, inv state → post (m.run state).1 ∧ inv (m.run state).2

namespace Ensures

protected theorem pure {post : α → Prop} {a : α} (h : post a) : Ensures inv (pure a) post :=
  fun _ hs => ⟨h, hs⟩

/-- What holds of every value holds also of those that the invariant admits. -/
theorem of_always {m : StateM σ α} {post post' : α → Prop} (h : Ensures inv m post)
    (h' : Ensures (fun _ => True) m post') : Ensures inv m post' :=
  fun state hs => ⟨(h' state trivial).1, (h state hs).2⟩

theorem always {m : StateM σ α} : Ensures (fun _ => True) m fun _ => True :=
  fun _ _ => ⟨trivial, trivial⟩

protected theorem mono {m : StateM σ α} {post post' : α → Prop} (h : Ensures inv m post)
    (hpost : ∀ a, post a → post' a) : Ensures inv m post' :=
  fun state hs => ⟨hpost _ (h state hs).1, (h state hs).2⟩

protected theorem bind {m : StateM σ α} {f : α → StateM σ β} {post : α → Prop} {post' : β → Prop}
    (hm : Ensures inv m post) (hf : ∀ a, post a → Ensures inv (f a) post') :
    Ensures inv (m >>= f) post' :=
  fun state hs => hf _ (hm state hs).1 _ (hm state hs).2

protected theorem map {m : StateM σ α} {f : α → β} {post : α → Prop} {post' : β → Prop}
    (hm : Ensures inv m post) (hf : ∀ a, post a → post' (f a)) : Ensures inv (f <$> m) post' :=
  fun state hs => ⟨hf _ (hm state hs).1, (hm state hs).2⟩

protected theorem modify {f : σ → σ} (h : ∀ state, inv state → inv (f state)) :
    Ensures inv (modify f) fun _ => True :=
  fun state hs => ⟨trivial, h state hs⟩

/-- A loop over a list gives for each element a value with the property of that element. -/
protected theorem mapM {f : α → StateM σ β} {post : α → β → Prop} {xs : List α}
    (h : ∀ x ∈ xs, Ensures inv (f x) (post x)) :
    Ensures inv (xs.mapM f) (List.Forall₂ post xs) := by
  induction xs with
  | nil => exact .pure .nil
  | cons x xs ih =>
    rw [List.mapM_cons]
    refine (h x List.mem_cons_self).bind fun y hy => ?_
    refine (ih fun x' hx' => h x' (List.mem_cons_of_mem _ hx')).bind fun ys hys => ?_
    exact .pure (.cons hy hys)

/-- A loop over a list gives the values that are known for its elements. -/
theorem mapM_eq {f : α → StateM σ β} {g : α → β} {xs : List α}
    (h : ∀ x ∈ xs, Ensures inv (f x) (· = g x)) : Ensures inv (xs.mapM f) (· = xs.map g) := by
  have hall : Ensures inv (xs.mapM f) (List.Forall₂ (fun x y => y = g x) xs) := .mapM h
  refine hall.mono fun ys hys => ?_
  clear h hall
  induction hys with
  | nil => rfl
  | cons hy _ ih => rw [List.map_cons, hy, ih]

/-- A loop over a list gives values with a property that each of its elements gives. -/
theorem mapM_forall {f : α → StateM σ β} {post : β → Prop} {xs : List α}
    (h : ∀ x ∈ xs, Ensures inv (f x) post) :
    Ensures inv (xs.mapM f) fun ys => ∀ y ∈ ys, post y := by
  have hall : Ensures inv (xs.mapM f) (List.Forall₂ (fun _ y => post y) xs) := .mapM h
  refine hall.mono fun ys hys => ?_
  clear h hall
  induction hys with
  | nil => exact nofun
  | cons hy _ ih => exact List.forall_mem_cons.2 ⟨hy, ih⟩

end Ensures

/-- From every state with the invariant the computation leads to a state with the invariant, also
when it fails; if it does not fail it gives a value with the property `post`. -/
def EnsuresOk (inv : σ → Prop) (m : ExceptT ε (StateM σ) α) (post : α → Prop) : Prop :=
  Ensures inv m.run fun result => ∀ a, result = .ok a → post a

namespace EnsuresOk

protected theorem pure {post : α → Prop} {a : α} (h : post a) :
    EnsuresOk inv (pure a : ExceptT ε (StateM σ) α) post :=
  Ensures.pure fun _ he => Except.ok.inj he ▸ h

protected theorem throw {post : α → Prop} {error : ε} :
    EnsuresOk inv (throw error : ExceptT ε (StateM σ) α) post :=
  Ensures.pure nofun

protected theorem mono {m : ExceptT ε (StateM σ) α} {post post' : α → Prop}
    (h : EnsuresOk inv m post) (hpost : ∀ a, post a → post' a) : EnsuresOk inv m post' :=
  Ensures.mono h fun _ hr a he => hpost a (hr a he)

protected theorem bind {m : ExceptT ε (StateM σ) α} {f : α → ExceptT ε (StateM σ) β}
    {post : α → Prop} {post' : β → Prop} (hm : EnsuresOk inv m post)
    (hf : ∀ a, post a → EnsuresOk inv (f a) post') : EnsuresOk inv (m >>= f) post' := by
  unfold EnsuresOk
  rw [ExceptT.run_bind]
  refine Ensures.bind hm fun result hr => ?_
  cases result with
  | ok a => exact hf a (hr a rfl)
  | error e => exact .pure nofun

/-- What a computation ensures holds of the value that it gives in a run. -/
theorem of_run {m : ExceptT ε (StateM σ) α} {post : α → Prop} {state : σ} {a : α}
    (h : EnsuresOk inv m post) (hs : inv state) (hrun : (m.run.run state).1 = .ok a) : post a :=
  (h state hs).1 a hrun

/-- A computation that cannot fail as a step of one that can. -/
protected theorem lift {m : StateM σ α} {post : α → Prop} (h : Ensures inv m post) :
    EnsuresOk inv (liftM m : ExceptT ε (StateM σ) α) post :=
  h.map fun _ ha _ he => Except.ok.inj he ▸ ha

protected theorem get : EnsuresOk inv (get : ExceptT ε (StateM σ) σ) inv :=
  .lift fun _ hs => ⟨hs, hs⟩

/-- A result that is known beforehand as a step. -/
theorem liftExcept_ok (result : Except ε α) :
    EnsuresOk inv (liftExcept result : ExceptT ε (StateM σ) α)
      (result = .ok ·) := by
  cases result with
  | ok a => exact .pure rfl
  | error e => exact .throw

theorem liftExcept (result : Except ε α) :
    EnsuresOk inv (liftExcept result : ExceptT ε (StateM σ) α) fun _ => True :=
  (liftExcept_ok result).mono fun _ _ => trivial

protected theorem modify {f : σ → σ} (h : ∀ state, inv state → inv (f state)) :
    EnsuresOk inv (modify f : ExceptT ε (StateM σ) PUnit) fun _ => True :=
  .lift (Ensures.modify h)

protected theorem discard {m : ExceptT ε (StateM σ) α} {post : α → Prop}
    (h : EnsuresOk inv m post) : EnsuresOk inv (discard m) fun _ => True := by
  have hunit : EnsuresOk inv (pure () : ExceptT ε (StateM σ) Unit) fun _ => True := .pure trivial
  exact h.bind fun _ _ => hunit

protected theorem tryCatch {m : ExceptT ε (StateM σ) α} {handle : ε → ExceptT ε (StateM σ) α}
    {post : α → Prop} (hm : EnsuresOk inv m post) (hh : ∀ e, EnsuresOk inv (handle e) post) :
    EnsuresOk inv (tryCatch m handle) post := by
  unfold EnsuresOk
  rw [ExceptT.run_tryCatch]
  refine Ensures.bind hm fun result hr => ?_
  cases result with
  | ok a => exact .pure hr
  | error e => exact hh e

end EnsuresOk

/-- From every state with the invariant the computation does not fail; it gives a value with the
property `post` and leads to a state with the invariant. -/
def Succeeds (inv : σ → Prop) (m : ExceptT ε (StateM σ) α) (post : α → Prop) : Prop :=
  Ensures inv m.run fun result => ∃ a, result = .ok a ∧ post a

namespace Succeeds

protected theorem pure {post : α → Prop} {a : α} (h : post a) :
    Succeeds inv (pure a : ExceptT ε (StateM σ) α) post :=
  Ensures.pure ⟨a, rfl, h⟩

protected theorem bind {m : ExceptT ε (StateM σ) α} {f : α → ExceptT ε (StateM σ) β}
    {post : α → Prop} {post' : β → Prop} (hm : Succeeds inv m post)
    (hf : ∀ a, post a → Succeeds inv (f a) post') : Succeeds inv (m >>= f) post' := by
  unfold Succeeds
  rw [ExceptT.run_bind]
  refine Ensures.bind hm fun result hr => ?_
  obtain ⟨a, rfl, ha⟩ := hr
  exact hf a ha

protected theorem lift {m : StateM σ α} {post : α → Prop} (h : Ensures inv m post) :
    Succeeds inv (liftM m : ExceptT ε (StateM σ) α) post :=
  h.map fun a ha => ⟨a, rfl, ha⟩

protected theorem liftExcept {result : Except ε α} {a : α} (h : result = .ok a) :
    Succeeds inv (liftExcept result : ExceptT ε (StateM σ) α) fun _ => True := by
  subst h
  exact .pure trivial

end Succeeds

end FortranBindings
