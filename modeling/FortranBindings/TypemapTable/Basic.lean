import FortranBindings.Decl.Typemap

/-!
# Typemap tables

A table holds typemaps by operation and signature. A signature is the canonical spelling of a type,
so that all spellings of a type share one entry. One table can be laid over another: where both have
an entry the upper one counts.
-/

namespace FortranBindings

/-- Typemaps by operation and by signature. -/
structure TypemapTable where
  operations : Dict (Dict Typemap) := {}
  deriving DecidableEq

namespace TypemapTable

/-- The typemap of an operation for a signature. -/
def lookup (table : TypemapTable) (operation signature : String) : Option Typemap :=
  (table.operations.find? operation).bind (·.find? signature)

/-- The typemaps of an operation. -/
def ofOperation (table : TypemapTable) (operation : String) : Dict Typemap :=
  (table.operations.find? operation).getD {}

/-- Enter a typemap for a type, in place of any other. -/
def insert (table : TypemapTable) (operation : String) (type : CxxType) (typemap : Typemap) :
    TypemapTable where
  operations := table.operations.insert operation
    ((table.ofOperation operation).insert type.signature typemap)

/-- Enter code for a type. -/
def code (table : TypemapTable) (operation : String) (type : CxxType) (text : String) :
    TypemapTable :=
  table.insert operation type { code := text }

/-- Lay the table `upper` over the table. -/
def overlay (table upper : TypemapTable) : TypemapTable where
  operations := table.operations.insertMany (upper.operations.entries.map fun entry =>
    (entry.1, (table.ofOperation entry.1).union entry.2))

/-- The number of typemaps. -/
def size (table : TypemapTable) : Nat :=
  table.operations.entries.foldl (fun n entry => n + entry.2.size) 0

/-- A short description of the table. -/
def summary (table : TypemapTable) : String :=
  "TypemapTable(" ++ toString table.operations.size ++ " operations, " ++ toString table.size ++
    " typemaps)"

end TypemapTable

end FortranBindings
