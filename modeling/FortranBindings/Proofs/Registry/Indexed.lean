import FortranBindings.Proofs.Registry.Lookups
import FortranBindings.Registry.Indexed

/-!
# The index of a registry

The three parts of an indexed registry are aligned (`IndexedRegistry.IsAligned`): there is a name
for each value, and the index has the last position of each name. Every step keeps them aligned
(`IndexedRegistry.IsAligned.step?`) and does what it does to the registry without an index
(`IndexedRegistry.IsAligned.map_toRegistry_step?`), and so does every run
(`IndexedRegistry.IsAligned.run?`, `IndexedRegistry.IsAligned.map_toRegistry_run?`).

A number stands for the same name and the same value for good, apart from the changes that are made
to this value (`IndexedRegistry.IsAligned.at?_run?`).
-/

namespace FortranBindings

/-- What is done to a registry. A change is what is done through a reference to a value. -/
inductive RegistryStep (α : Type)
  /-- Add a value. -/
  | insert (name : String) (value : α)
  /-- Change the value that a name stands for, adding one first if it stands for none. -/
  | upsert (name : String) (value : α) (change : α → α)
  /-- Change the value that a name stands for, if it stands for one. -/
  | modify (name : String) (change : α → α)
  /-- Change the value with a number. -/
  | modifyAt (id : Nat) (change : α → α)

/-- The change that a step makes to a value. -/
def RegistryStep.change {α : Type} : RegistryStep α → α → α
  | insert .. => id
  | upsert _ _ change => change
  | modify _ change => change
  | modifyAt _ change => change

namespace Registry

variable {α : Type} {registry other : Registry α} {name : String} {id : Nat}

/-- The registry after a step. There is none if the step uses a number that there is not. -/
def step? (registry : Registry α) : RegistryStep α → Option (Registry α)
  | .insert name value => some (registry.insert name value)
  | .upsert name value change => some (registry.upsert name value change)
  | .modify name change =>
    some ((registry.idOf? name).elim registry fun id => registry.modifyAt id change)
  | .modifyAt id change => if id < registry.size then some (registry.modifyAt id change) else none

/-- The registry after some steps. -/
def run? (registry : Registry α) (steps : List (RegistryStep α)) : Option (Registry α) :=
  steps.foldlM step? registry

/-- The number of a name depends on the names only. -/
theorem idOf?_congr (h : registry.names = other.names) (name : String) :
    registry.idOf? name = other.idOf? name := by
  refine Option.ext fun id => ?_
  rw [idOf?_eq_some_iff, idOf?_eq_some_iff, h]

theorem idOf?_modifyAt (registry : Registry α) (id : Nat) (f : α → α) (name : String) :
    (registry.modifyAt id f).idOf? name = registry.idOf? name :=
  idOf?_congr (names_modifyAt registry id f) name

theorem idOf?_insert (registry : Registry α) (name other : String) (value : α) :
    (registry.insert name value).idOf? other =
      if name = other then some registry.size else registry.idOf? other :=
  lastIndex?_concat other registry.entries (name, value)

theorem lt_size_of_idOf? (h : registry.idOf? name = some id) : id < registry.size := by
  obtain ⟨value, hvalue⟩ := getElem?_of_lastIndex? h
  exact (List.getElem?_eq_some_iff.1 hvalue).1

end Registry

namespace IndexedRegistry

variable {α : Type} {registry next reached : IndexedRegistry α} {name : String} {id : Nat}
  {step : RegistryStep α} {steps : List (RegistryStep α)}

/-- The registry after a step. There is none if the step uses a number that there is not. -/
def step? (registry : IndexedRegistry α) : RegistryStep α → Option (IndexedRegistry α)
  | .insert name value => some (registry.insert name value)
  | .upsert name value change => registry.upsert? name value change
  | .modify name change => registry.modify? name change
  | .modifyAt id change => registry.modifyAt? id change

/-- The registry after some steps. -/
def run? (registry : IndexedRegistry α) (steps : List (RegistryStep α)) :
    Option (IndexedRegistry α) :=
  steps.foldlM step? registry

/-! ## Alignment -/

/-- There is a name for each value, and the index has the last position of each name. -/
structure IsAligned (registry : IndexedRegistry α) : Prop where
  length_names : registry.names.length = registry.values.length
  idOf?_eq : ∀ name, registry.idOf? name = registry.toRegistry.idOf? name

theorem isAligned_empty : ({} : IndexedRegistry α).IsAligned := ⟨rfl, fun _ => rfl⟩

namespace IsAligned

theorem names_toRegistry (h : registry.IsAligned) : registry.toRegistry.names = registry.names :=
  List.map_fst_zip (Nat.le_of_eq h.length_names)

theorem size_toRegistry (h : registry.IsAligned) : registry.toRegistry.size = registry.size := by
  rw [Registry.size, toRegistry, entries, List.length_zip, h.length_names, Nat.min_self, size]

theorem at?_toRegistry (h : registry.IsAligned) (id : Nat) :
    registry.toRegistry.at? id = registry.at? id := by
  have hvalues : registry.toRegistry.entries.map (·.2) = registry.values :=
    List.map_snd_zip (Nat.le_of_eq h.length_names.symm)
  rw [Registry.at?, ← List.getElem?_map, hvalues, at?]

theorem find?_toRegistry (h : registry.IsAligned) (name : String) :
    registry.toRegistry.find? name = registry.find? name := by
  rw [Registry.find?, ← h.idOf?_eq, find?, funext h.at?_toRegistry]

/-- What the index has is there. -/
theorem lt_size (h : registry.IsAligned) (hid : registry.idOf? name = some id) :
    id < registry.size := by
  rw [h.idOf?_eq] at hid
  exact h.size_toRegistry ▸ Registry.lt_size_of_idOf? hid

/-- **The number of a name** is its last position. -/
theorem idOf?_eq_some_iff (h : registry.IsAligned) : registry.idOf? name = some id ↔
    registry.names[id]? = some name ∧ ∀ later > id, registry.names[later]? ≠ some name := by
  rw [h.idOf?_eq, Registry.idOf?_eq_some_iff, h.names_toRegistry]

theorem idOf?_eq_none_iff (h : registry.IsAligned) :
    registry.idOf? name = none ↔ name ∉ registry.names := by
  rw [h.idOf?_eq, ← h.names_toRegistry]
  refine ⟨Registry.notMem_of_lastIndex?_eq_none, fun hname => ?_⟩
  cases hid : registry.toRegistry.idOf? name with
  | none => rfl
  | some id => exact absurd (List.mem_of_getElem? (Registry.idOf?_eq_some_iff.1 hid).1) hname

/-! ## Adding and changing -/

theorem toRegistry_insert (h : registry.IsAligned) (name : String) (value : α) :
    (registry.insert name value).toRegistry = registry.toRegistry.insert name value := by
  rw [toRegistry, entries, IndexedRegistry.insert, List.zip_append h.length_names]
  rfl

theorem insert (h : registry.IsAligned) (name : String) (value : α) :
    (registry.insert name value).IsAligned where
  length_names := by
    simp [IndexedRegistry.insert, h.length_names]
  idOf?_eq other := by
    rw [h.toRegistry_insert, Registry.idOf?_insert, h.size_toRegistry, ← h.idOf?_eq, idOf?,
      IndexedRegistry.insert, Dict.find?_insert, idOf?]
    simp only [eq_comm]

end IsAligned

theorem toRegistry_modifyAt (registry : IndexedRegistry α) (id : Nat) (f : α → α) :
    (registry.modifyAt id f).toRegistry = registry.toRegistry.modifyAt id f := by
  refine congrArg Registry.mk (List.ext_getElem? fun i => ?_)
  simp only [entries, toRegistry, modifyAt, List.zip_eq_zipWith, List.getElem?_zipWith,
    List.getElem?_modify]
  cases registry.names[i]? <;> cases registry.values[i]? <;> by_cases hi : id = i <;> simp [hi]

theorem IsAligned.modifyAt (h : registry.IsAligned) (id : Nat) (f : α → α) :
    (registry.modifyAt id f).IsAligned where
  length_names := by
    simp [IndexedRegistry.modifyAt, h.length_names]
  idOf?_eq name := by
    rw [toRegistry_modifyAt, Registry.idOf?_modifyAt]
    exact h.idOf?_eq name

/-- Changing a value that was just added is adding the changed value. -/
theorem modifyAt_insert (registry : IndexedRegistry α) (name : String) (value : α) (f : α → α) :
    (registry.insert name value).modifyAt registry.size f = registry.insert name (f value) := by
  have hlt : registry.size < (registry.values ++ [value]).length := by simp [size]
  have hvalues : (registry.values ++ [value]).modify registry.size f =
      registry.values ++ [f value] := by
    rw [List.modify_eq_take_cons_drop hlt]
    simp [size]
  rw [modifyAt, insert, hvalues, insert]

/-! ## Steps -/

/-- The number of the value that a step changes; a value that the step adds does not count. -/
def target? (registry : IndexedRegistry α) : RegistryStep α → Option Nat
  | .insert .. => none
  | .upsert name _ _ => registry.idOf? name
  | .modify name _ => registry.idOf? name
  | .modifyAt id _ => some id

namespace IsAligned

theorem modifyAt?_of_idOf? (h : registry.IsAligned) (hid : registry.idOf? name = some id)
    (f : α → α) : registry.modifyAt? id f = some (registry.modifyAt id f) :=
  if_pos (h.lt_size hid)

/-- Getting a value to change it finds it at the number in the index, or adds it. -/
theorem upsert?_eq (h : registry.IsAligned) (name : String) (value : α) (f : α → α) :
    registry.upsert? name value f = some ((registry.idOf? name).elim
      (registry.insert name (f value)) fun id => registry.modifyAt id f) := by
  unfold upsert?
  cases hid : registry.idOf? name with
  | some id => exact h.modifyAt?_of_idOf? hid f
  | none =>
    have hlt : registry.size < (registry.insert name value).size := by
      simp [size, IndexedRegistry.insert]
    exact (if_pos hlt).trans (congrArg some (modifyAt_insert registry name value f))

theorem modify?_eq (h : registry.IsAligned) (name : String) (f : α → α) :
    registry.modify? name f = some ((registry.idOf? name).elim registry
      fun id => registry.modifyAt id f) := by
  unfold modify?
  cases hid : registry.idOf? name with
  | some id => exact h.modifyAt?_of_idOf? hid f
  | none => rfl

/-- **What a step can do**: change a value that is there, add one, or nothing. -/
theorem step?_cases (h : registry.IsAligned) (hstep : registry.step? step = some next) :
    (∃ id < registry.size, registry.target? step = some id ∧
      next = registry.modifyAt id step.change) ∨
    registry.target? step = none ∧
      (next = registry ∨ ∃ name value, next = registry.insert name value) := by
  cases step with
  | insert name value =>
    cases hstep
    exact .inr ⟨rfl, .inr ⟨name, value, rfl⟩⟩
  | upsert name value change =>
    rw [step?, h.upsert?_eq] at hstep
    cases hid : registry.idOf? name with
    | some id =>
      rw [hid] at hstep
      cases hstep
      exact .inl ⟨id, h.lt_size hid, hid, rfl⟩
    | none =>
      rw [hid] at hstep
      cases hstep
      exact .inr ⟨hid, .inr ⟨name, change value, rfl⟩⟩
  | modify name change =>
    rw [step?, h.modify?_eq] at hstep
    cases hid : registry.idOf? name with
    | some id =>
      rw [hid] at hstep
      cases hstep
      exact .inl ⟨id, h.lt_size hid, hid, rfl⟩
    | none =>
      rw [hid] at hstep
      cases hstep
      exact .inr ⟨hid, .inl rfl⟩
  | modifyAt id change =>
    obtain ⟨hlt, heq⟩ := Option.ite_none_right_eq_some.1 hstep
    cases heq
    exact .inl ⟨id, hlt, rfl, rfl⟩

/-- A step keeps a registry aligned. -/
theorem step? (h : registry.IsAligned) (hstep : registry.step? step = some next) :
    next.IsAligned := by
  obtain ⟨id, -, -, rfl⟩ | ⟨-, rfl | ⟨name, value, rfl⟩⟩ := h.step?_cases hstep
  · exact h.modifyAt id _
  · exact h
  · exact h.insert name value

/-- **A step does what it does without an index.** -/
theorem map_toRegistry_step? (h : registry.IsAligned) (step : RegistryStep α) :
    (registry.step? step).map toRegistry = registry.toRegistry.step? step := by
  cases step with
  | insert name value => exact congrArg some (h.toRegistry_insert name value)
  | upsert name value change =>
    rw [IndexedRegistry.step?, h.upsert?_eq, Registry.step?, Registry.upsert, ← h.idOf?_eq]
    cases registry.idOf? name with
    | some id => exact congrArg some (toRegistry_modifyAt registry id change)
    | none => exact congrArg some (h.toRegistry_insert name (change value))
  | modify name change =>
    rw [IndexedRegistry.step?, h.modify?_eq, Registry.step?, ← h.idOf?_eq]
    cases registry.idOf? name with
    | some id => exact congrArg some (toRegistry_modifyAt registry id change)
    | none => rfl
  | modifyAt id change =>
    rw [IndexedRegistry.step?, modifyAt?, Registry.step?, h.size_toRegistry]
    split
    · exact congrArg some (toRegistry_modifyAt registry id change)
    · rfl

/-- What a step does to the name and to the value at a number. -/
theorem at?_step? (h : registry.IsAligned) (hstep : registry.step? step = some next)
    (hid : id < registry.size) :
    next.names[id]? = registry.names[id]? ∧
      next.at? id = (registry.at? id).map fun value =>
        if registry.target? step = some id then step.change value else value := by
  obtain ⟨target, -, htarget, rfl⟩ | ⟨hnone, rfl | ⟨name, value, rfl⟩⟩ := h.step?_cases hstep
  · refine ⟨rfl, ?_⟩
    simp only [at?, IndexedRegistry.modifyAt, List.getElem?_modify, htarget, Option.some.injEq]
    rfl
  · rw [hnone]
    exact ⟨rfl, Option.map_id'.symm⟩
  · rw [hnone]
    refine ⟨List.getElem?_append_left (h.length_names ▸ hid), Eq.trans ?_ Option.map_id'.symm⟩
    exact List.getElem?_append_left hid

theorem size_le_step? (h : registry.IsAligned) (hstep : registry.step? step = some next) :
    registry.size ≤ next.size := by
  obtain ⟨id, -, -, rfl⟩ | ⟨-, rfl | ⟨name, value, rfl⟩⟩ := h.step?_cases hstep
  · exact Nat.le_of_eq (List.length_modify _ _ _).symm
  · exact Nat.le_refl _
  · simp [size, IndexedRegistry.insert]

end IsAligned

/-! ## Runs -/

/-- What some steps do to the value with a number. -/
def changesOf (id : Nat) (registry : IndexedRegistry α) : List (RegistryStep α) → α → α
  | [], value => value
  | step :: steps, value =>
    let changed := if registry.target? step = some id then step.change value else value
    match registry.step? step with
    | some next => changesOf id next steps changed
    | none => changed

namespace IsAligned

/-- A run keeps a registry aligned. -/
theorem run? (h : registry.IsAligned) (hrun : registry.run? steps = some reached) :
    reached.IsAligned := by
  induction steps generalizing registry with
  | nil => cases hrun; exact h
  | cons step steps ih =>
    obtain ⟨next, hstep, hrest⟩ := Option.bind_eq_some_iff.1 hrun
    exact ih (h.step? hstep) hrest

/-- **A run does what it does without an index.** -/
theorem map_toRegistry_run? (h : registry.IsAligned) (steps : List (RegistryStep α)) :
    (registry.run? steps).map toRegistry = registry.toRegistry.run? steps := by
  induction steps generalizing registry with
  | nil => rfl
  | cons step steps ih =>
    have hstep := h.map_toRegistry_step? step
    rw [IndexedRegistry.run?, Registry.run?, List.foldlM_cons, List.foldlM_cons, ← hstep]
    cases hnext : registry.step? step with
    | none => rfl
    | some next => exact ih (h.step? hnext)

/-- **A number stands for one name and one value** for good, and this value is changed by nothing
but the changes that are made to it. -/
theorem at?_run? (h : registry.IsAligned) (hrun : registry.run? steps = some reached)
    (hid : id < registry.size) :
    reached.names[id]? = registry.names[id]? ∧
      reached.at? id = (registry.at? id).map (registry.changesOf id steps) := by
  induction steps generalizing registry with
  | nil =>
    cases hrun
    exact ⟨rfl, Option.map_id'.symm⟩
  | cons step steps ih =>
    obtain ⟨next, hstep, hrest⟩ := Option.bind_eq_some_iff.1 hrun
    obtain ⟨hname, hvalue⟩ := h.at?_step? hstep hid
    obtain ⟨hname', hvalue'⟩ :=
      ih (h.step? hstep) hrest (Nat.lt_of_lt_of_le hid (h.size_le_step? hstep))
    refine ⟨hname'.trans hname, hvalue'.trans ?_⟩
    rw [hvalue, Option.map_map]
    refine Option.map_congr fun value _ => ?_
    simp only [changesOf, hstep, Function.comp_apply]

/-- Getting a value to change it shadows no value and moves none: only a new name is added, and the
numbers of all other names stay as they are. -/
theorem upsert?_exact (h : registry.IsAligned) (name : String) (value : α) (f : α → α) :
    ∃ next, registry.upsert? name value f = some next ∧
      next.names = registry.names ++ (if name ∈ registry.names then [] else [name]) ∧
      (∀ other ∈ registry.names, next.idOf? other = registry.idOf? other) ∧
      next.find? name = some (f ((registry.find? name).getD value)) := by
  refine ⟨_, h.upsert?_eq name value f, ?_⟩
  cases hid : registry.idOf? name with
  | some id =>
    have hmem : name ∈ registry.names := List.mem_of_getElem? (h.idOf?_eq_some_iff.1 hid).1
    obtain ⟨old, hold⟩ : ∃ old, registry.at? id = some old :=
      ⟨_, List.getElem?_eq_getElem (h.lt_size hid)⟩
    refine ⟨by simp [hmem, IndexedRegistry.modifyAt], fun _ _ => rfl, ?_⟩
    have hid' : (registry.modifyAt id f).idOf? name = some id := hid
    rw [Option.elim_some, find?, find?, hid', hid, Option.bind_some, Option.bind_some, hold]
    rw [at?] at hold
    simp [at?, IndexedRegistry.modifyAt, hold]
  | none =>
    have hmem : name ∉ registry.names := h.idOf?_eq_none_iff.1 hid
    refine ⟨by simp [hmem, IndexedRegistry.insert], fun other hother => ?_, ?_⟩
    · have hne : other ≠ name := fun heq => hmem (heq ▸ hother)
      exact (Dict.find?_insert ..).trans (if_neg hne)
    · rw [Option.elim_none, find?, idOf?, IndexedRegistry.insert, Dict.find?_insert, if_pos rfl,
        find?, hid]
      simp [at?, size]

end IsAligned

end IndexedRegistry

end FortranBindings
