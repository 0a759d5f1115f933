import FortranBindings.Dict
import FortranBindings.Registry

/-!
# Registries with an index

A registry that is kept in three parts: the values in the order they were added, the name of each
value at the same position, and an index from names to numbers. A lookup goes through the index and
takes the value at the number, whatever name stands there. `IndexedRegistry.toRegistry` is the
registry that is kept in this way.

Changing a value at a number that there is not has no result.
-/

namespace FortranBindings

/-- Named values in the order they were added, with an index of the names. -/
structure IndexedRegistry (α : Type) where
  /-- The values, oldest first. -/
  values : List α := []
  /-- The name that each value was added under. -/
  names : List String := []
  /-- The number of the value that a name stands for. -/
  index : Dict Nat := {}
  deriving DecidableEq

namespace IndexedRegistry

variable {α : Type}

/-- The number of values. -/
def size (registry : IndexedRegistry α) : Nat :=
  registry.values.length

/-- All names with their values, oldest first. -/
def entries (registry : IndexedRegistry α) : List (String × α) :=
  registry.names.zip registry.values

/-- The registry that is kept. -/
def toRegistry (registry : IndexedRegistry α) : Registry α where
  entries := registry.entries

/-- The number of the value that a name stands for. -/
def idOf? (registry : IndexedRegistry α) (name : String) : Option Nat :=
  registry.index.find? name

/-- The value with a number. -/
def at? (registry : IndexedRegistry α) (id : Nat) : Option α :=
  registry.values[id]?

/-- The value that a name stands for. -/
def find? (registry : IndexedRegistry α) (name : String) : Option α :=
  (registry.idOf? name).bind registry.at?

/-- Does the name stand for a value? -/
def contains (registry : IndexedRegistry α) (name : String) : Bool :=
  registry.index.contains name

/-- Add a value at the end. Its number is the size before. -/
def insert (registry : IndexedRegistry α) (name : String) (value : α) : IndexedRegistry α where
  values := registry.values ++ [value]
  names := registry.names ++ [name]
  index := registry.index.insert name registry.size

/-- The registry with the value at a number changed, if there is one. -/
def modifyAt (registry : IndexedRegistry α) (id : Nat) (f : α → α) : IndexedRegistry α :=
  { registry with values := registry.values.modify id f }

/-- Change the value with a number. -/
def modifyAt? (registry : IndexedRegistry α) (id : Nat) (f : α → α) :
    Option (IndexedRegistry α) :=
  if id < registry.size then some (registry.modifyAt id f) else none

/-- Change the value that a name stands for, if it stands for one. -/
def modify? (registry : IndexedRegistry α) (name : String) (f : α → α) :
    Option (IndexedRegistry α) :=
  match registry.idOf? name with
  | some id => registry.modifyAt? id f
  | none => some registry

/-- Change the value that a name stands for, adding `value` first if it stands for none. -/
def upsert? (registry : IndexedRegistry α) (name : String) (value : α) (f : α → α) :
    Option (IndexedRegistry α) :=
  match registry.idOf? name with
  | some id => registry.modifyAt? id f
  | none => (registry.insert name value).modifyAt? registry.size f

end IndexedRegistry

end FortranBindings
