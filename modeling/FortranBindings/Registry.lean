import FortranBindings.Text.Quoted

/-!
# Registries

A registry is a list of named values that only grows. Every value keeps the position it was added
at, its number. A name may be added again: the new value shadows the old one in lookups and both
stay in the list. `idOf?` is the last position that holds a name.
-/

namespace FortranBindings

/-- Named values in the order they were added. -/
structure Registry (α : Type) where
  /-- The pairs, oldest first. -/
  entries : List (String × α) := []
  deriving DecidableEq

namespace Registry

variable {α : Type}

/-- The last position of a name in a list of pairs. -/
def lastIndex? (name : String) : List (String × α) → Option Nat
  | [] => none
  | (n, _) :: rest =>
    match lastIndex? name rest with
    | some i => some (i + 1)
    | none => if n = name then some 0 else none

/-- The number of values. -/
def size (registry : Registry α) : Nat :=
  registry.entries.length

/-- The number of the value that a name stands for. -/
def idOf? (registry : Registry α) (name : String) : Option Nat :=
  lastIndex? name registry.entries

/-- The value with a number. -/
def at? (registry : Registry α) (id : Nat) : Option α :=
  registry.entries[id]?.map (·.2)

/-- The value that a name stands for. -/
def find? (registry : Registry α) (name : String) : Option α :=
  (registry.idOf? name).bind registry.at?

/-- Does the name stand for a value? -/
def contains (registry : Registry α) (name : String) : Bool :=
  (registry.idOf? name).isSome

/-- Add a value at the end. Its number is the size before. -/
def insert (registry : Registry α) (name : String) (value : α) : Registry α where
  entries := registry.entries ++ [(name, value)]

/-- Change the value with a number, if there is one. -/
def modifyAt (registry : Registry α) (id : Nat) (f : α → α) : Registry α where
  entries := registry.entries.modify id fun pair => (pair.1, f pair.2)

/-- Change the value that a name stands for, adding `value` first if it stands for none. -/
def upsert (registry : Registry α) (name : String) (value : α) (f : α → α) : Registry α :=
  match registry.idOf? name with
  | some id => registry.modifyAt id f
  | none => registry.insert name (f value)

/-- A registry of texts as a text. Names stand between their quotes as they are. -/
def summary (registry : Registry String) : String :=
  "\x7b" ++ ", ".intercalate (registry.entries.map fun (name, value) =>
    "u!(\"" ++ name ++ "\"): " ++ Text.quoted value) ++ "\x7d"

/-- The last position is below the length and holds the name. -/
theorem getElem?_of_lastIndex? {name : String} {pairs : List (String × α)} {i : Nat}
    (h : lastIndex? name pairs = some i) : ∃ value, pairs[i]? = some (name, value) := by
  induction pairs generalizing i with
  | nil => simp [lastIndex?] at h
  | cons head rest ih =>
    obtain ⟨n, v⟩ := head
    rw [lastIndex?] at h
    split at h
    · next j hj =>
      cases h
      obtain ⟨value, hv⟩ := ih hj
      exact ⟨value, by simpa using hv⟩
    · split at h
      · next hn =>
        cases h
        exact ⟨v, by simp [hn]⟩
      · cases h

/-- A name stands for a value exactly when it has a number. -/
theorem isSome_find? (registry : Registry α) (name : String) :
    (registry.find? name).isSome = registry.contains name := by
  unfold find? contains idOf?
  cases h : lastIndex? name registry.entries with
  | none => rfl
  | some i =>
    obtain ⟨value, hv⟩ := getElem?_of_lastIndex? h
    simp [at?, hv]

end Registry

end FortranBindings
