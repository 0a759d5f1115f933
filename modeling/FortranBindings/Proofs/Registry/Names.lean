import Mathlib.Data.List.Nodup
import FortranBindings.Overloads

/-!
# The names in a registry

Changing the value that a name stands for, or adding one if there is none, does not repeat a name
(`Registry.nodup_names_upsert`). So each public name has one group of overloads.
-/

namespace FortranBindings

namespace Registry

variable {α : Type}

/-- The names that values were added under, oldest first. -/
def names (registry : Registry α) : List String :=
  registry.entries.map (·.1)

/-- A name that has no position is not among the names. -/
theorem notMem_of_lastIndex?_eq_none {name : String} {pairs : List (String × α)}
    (h : lastIndex? name pairs = none) : name ∉ pairs.map (·.1) := by
  induction pairs with
  | nil => exact List.not_mem_nil
  | cons head rest ih =>
    obtain ⟨n, v⟩ := head
    rw [lastIndex?] at h
    split at h
    · cases h
    · next hrest =>
      split at h
      · cases h
      · next hne =>
        rw [List.map_cons, List.mem_cons, not_or]
        exact ⟨fun heq => hne heq.symm, ih hrest⟩

theorem names_modifyAt (registry : Registry α) (id : Nat) (f : α → α) :
    (registry.modifyAt id f).names = registry.names := by
  refine List.ext_getElem? fun i => ?_
  simp only [names, modifyAt, List.getElem?_map, List.getElem?_modify]
  cases registry.entries[i]? with
  | none => rfl
  | some pair =>
    by_cases hi : id = i
    · simp [hi]
    · simp [hi]

theorem nodup_names_upsert {registry : Registry α} (h : registry.names.Nodup) (name : String)
    (value : α) (f : α → α) : (registry.upsert name value f).names.Nodup := by
  unfold upsert
  split
  · rwa [names_modifyAt]
  · next hnone =>
    have hname := notMem_of_lastIndex?_eq_none hnone
    rw [names, insert, List.map_append, List.map_singleton]
    exact List.concat_eq_append ▸ h.concat hname

/-- Changing the value that a name stands for adds the name if it is a new one. -/
theorem mem_names_upsert {registry : Registry α} {name other : String} (value : α) (f : α → α) :
    other ∈ (registry.upsert name value f).names ↔ other ∈ registry.names ∨ name = other := by
  unfold upsert
  split
  · next id hid =>
    obtain ⟨v, hv⟩ := getElem?_of_lastIndex? hid
    have hname : name ∈ registry.names :=
      List.mem_map.2 ⟨(name, v), List.mem_of_getElem? hv, rfl⟩
    rw [names_modifyAt]
    refine ⟨.inl, ?_⟩
    rintro (hother | rfl)
    · exact hother
    · exact hname
  · rw [names, insert, List.map_append, List.map_singleton, List.mem_append, List.mem_singleton,
      @eq_comm _ other]
    rfl

/-- Every entry was there before, as it is or with another value, or it is the one added for the
name. -/
theorem mem_entries_upsert {registry : Registry α} {name : String} {value : α} {f : α → α}
    {pair : String × α} (h : pair ∈ (registry.upsert name value f).entries) :
    pair ∈ registry.entries ∨ (∃ old ∈ registry.entries, pair = (old.1, f old.2)) ∨
      pair = (name, f value) := by
  unfold upsert at h
  split at h
  · next id hid =>
    obtain ⟨i, hi⟩ := List.getElem?_of_mem h
    rw [modifyAt, List.getElem?_modify] at hi
    obtain ⟨old, hold, heq⟩ := Option.map_eq_some_iff.1 hi
    have hmem := List.mem_of_getElem? hold
    split at heq
    · exact .inr (.inl ⟨old, hmem, heq.symm⟩)
    · exact .inl (heq ▸ hmem)
  · rcases List.mem_append.1 h with hold | hnew
    · exact .inl hold
    · exact .inr (.inr (List.mem_singleton.1 hnew))

end Registry

/-- Recording a variant gives no public name a second group. -/
theorem Overloads.nodup_names_record {overloads : Overloads} (h : overloads.names.Nodup)
    (publicName variant : String) : (overloads.record publicName variant).names.Nodup :=
  Registry.nodup_names_upsert h _ _ _

/-- Recording a variant adds its public name if there was no group for it. -/
theorem Overloads.mem_names_record {overloads : Overloads} {publicName name : String}
    (variant : String) : name ∈ (overloads.record publicName variant).names ↔
      name ∈ overloads.names ∨ publicName = name :=
  Registry.mem_names_upsert _ _

end FortranBindings
