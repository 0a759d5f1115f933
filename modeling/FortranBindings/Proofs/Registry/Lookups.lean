import FortranBindings.Proofs.Registry.Names

/-!
# Looking up in a registry

A value that is added answers to its name from then on, and to no other one
(`Registry.find?_insert`). The number that a name stands for is the last position of the name
(`Registry.idOf?_eq_some_iff`).
-/

namespace FortranBindings.Registry

variable {α : Type} {registry : Registry α} {name : String} {pairs : List (String × α)} {id : Nat}

theorem lastIndex?_concat (name : String) (pairs : List (String × α)) (pair : String × α) :
    lastIndex? name (pairs ++ [pair]) =
      if pair.1 = name then some pairs.length else lastIndex? name pairs := by
  induction pairs with
  | nil => rfl
  | cons head rest ih =>
    rw [List.cons_append, lastIndex?, ih, lastIndex?]
    by_cases h : pair.1 = name
    · rw [if_pos h, if_pos h]
      rfl
    · rw [if_neg h, if_neg h]

/-- What is added answers to its name, and to no other one. -/
theorem find?_insert (registry : Registry α) (name other : String) (value : α) :
    (registry.insert name value).find? other =
      if name = other then some value else registry.find? other := by
  rw [find?, idOf?, insert, lastIndex?_concat]
  split
  · rw [Option.bind_some, at?, List.getElem?_concat_length, Option.map_some]
  · rw [find?, idOf?]
    cases hid : lastIndex? other registry.entries with
    | none => rfl
    | some id =>
      obtain ⟨old, hold⟩ := getElem?_of_lastIndex? hid
      have hlt : id < registry.entries.length := (List.getElem?_eq_some_iff.1 hold).1
      rw [Option.bind_some, Option.bind_some, at?, at?, List.getElem?_append_left hlt]

/-- The name does not come up behind its last position. -/
theorem ne_of_lastIndex?_lt (h : lastIndex? name pairs = some id) {later : Nat}
    (hlater : id < later) : (pairs.map (·.1))[later]? ≠ some name := by
  induction pairs generalizing id later with
  | nil => cases h
  | cons head rest ih =>
    obtain ⟨later, rfl⟩ := Nat.exists_eq_succ_of_ne_zero (Nat.ne_zero_of_lt hlater)
    rw [List.map_cons, List.getElem?_cons_succ]
    rw [lastIndex?] at h
    split at h
    · next last hlast =>
      cases h
      exact ih hlast (Nat.lt_of_succ_lt_succ hlater)
    · next hnone =>
      intro hname
      exact notMem_of_lastIndex?_eq_none hnone (List.mem_of_getElem? hname)

/-- The number of a name is its last position. -/
theorem idOf?_eq_some_iff : registry.idOf? name = some id ↔
    registry.names[id]? = some name ∧ ∀ later > id, registry.names[later]? ≠ some name := by
  have hlast : ∀ last, registry.idOf? name = some last → registry.names[last]? = some name ∧
      ∀ later > last, registry.names[later]? ≠ some name := by
    intro last h
    obtain ⟨value, hvalue⟩ := getElem?_of_lastIndex? h
    refine ⟨?_, fun later hlater => ne_of_lastIndex?_lt h hlater⟩
    rw [names, List.getElem?_map, hvalue, Option.map_some]
  refine ⟨hlast id, ?_⟩
  rintro ⟨hid, hbehind⟩
  cases hfound : registry.idOf? name with
  | none => exact absurd (List.mem_of_getElem? hid) (notMem_of_lastIndex?_eq_none hfound)
  | some last =>
    obtain ⟨hname, hbehind'⟩ := hlast last hfound
    have hle : last ≤ id := Nat.le_of_not_lt fun hlt => hbehind last hlt hname
    have hge : id ≤ last := Nat.le_of_not_lt fun hlt => hbehind' id hlt hid
    rw [Nat.le_antisymm hle hge]

end FortranBindings.Registry
