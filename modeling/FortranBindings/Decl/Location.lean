import FortranBindings.Json.Record

/-!
# Source locations

Where a declaration was found. A location without a file name is unknown.
-/

namespace FortranBindings

/-- A line of a source file. -/
structure Location where
  file : String := ""
  line : Nat := 0
  deriving DecidableEq, Inhabited, Repr

namespace Location

/-- The location as it appears in messages. -/
def display (location : Location) : String :=
  if location.file.isEmpty then "<unknown>" else location.file ++ ":" ++ toString location.line

instance : ToString Location := ⟨display⟩

open Json

/-- The document form of a location. -/
def record : Record Location where
  initial := {}
  fields := [
    .of "file" true asString fun file l => { l with file },
    .of "line" true (asNatural 32) fun line l => { l with line }]

/-- Read a location. -/
def ofJson : Decoder Location := record.read

/-- The document of a location. -/
def toJson (location : Location) : Json :=
  object [("file", string location.file), ("line", natural location.line)]

end Location

end FortranBindings
