import FortranBindings.TypemapTable.Basic

/-!
# Documents of typemap tables

A table is written as an object of operations, each an object of type spellings with their typemaps.
The spellings are read as types, so that the table holds canonical signatures only.
-/

namespace FortranBindings

open Json

/-- Why a document of typemaps is refused. -/
inductive TypemapsError
  | document (error : DocumentError)
  /-- A key of the table spells no type. -/
  | spelling (error : CxxType.SpellingError)
  deriving DecidableEq, Repr

/-- What is reported for refused typemaps. -/
def TypemapsError.message : TypemapsError → String
  | document error => error.message
  | spelling error => error.message

/-- The texts of what lies beneath refused typemaps. -/
def TypemapsError.causes : TypemapsError → List String
  | document error => error.causes
  | spelling _ => []

namespace TypemapTable

/-- Enter the typemaps of an operation under their spellings. -/
def insertSpellings (table : TypemapTable) (operation : String) (typemaps : Dict Typemap) :
    Except CxxType.SpellingError TypemapTable :=
  typemaps.entries.foldlM
    (fun table entry => (CxxType.ofSpelling entry.1).map (table.insert operation · entry.2)) table

/-- The table that a document of spellings stands for. -/
def ofSpellings (operations : Dict (Dict Typemap)) : Except CxxType.SpellingError TypemapTable :=
  operations.entries.foldlM (fun table entry => table.insertSpellings entry.1 entry.2) {}

/-- Read a table. -/
def ofDocument (document : Document) : Except TypemapsError TypemapTable := do
  let operations ← (document.decode (asDict (asDict Typemap.ofJson))).mapError .document
  (ofSpellings operations).mapError .spelling

end TypemapTable

end FortranBindings
