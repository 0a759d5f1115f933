import FortranBindings.Decl.Location
import FortranBindings.Text.Identifier

/-!
# Enumerations and type aliases

An enumeration lists named values. One without a name is anonymous. The others have a marker, the
name that stands for the whole enumeration in Fortran. A typedef gives a type another name.
-/

namespace FortranBindings

open Json

/-- A C++ enum. -/
structure Enumeration where
  /-- The qualified C++ name, empty for an anonymous enum. -/
  name : String := ""
  rename : Option String := none
  variants : List (String × Int)
  location : Location := {}
  deriving DecidableEq

namespace Enumeration

/-- Does the enumeration lack a name? -/
def isAnonymous (enumeration : Enumeration) : Bool := enumeration.name.isEmpty

/-- The enumerator that names the kind of the enumeration. -/
def marker? (enumeration : Enumeration) : Option String :=
  if enumeration.isAnonymous then none
  else some (enumeration.rename.getD (Text.sanitize enumeration.name))

/-- Read a variant: its name and a value of 64 bits. -/
def variantOfJson : Decoder (String × Int)
  | array [name, value] => do
    return (← asString name, ← asInteger (-9223372036854775808) 9223372036854775807 value)
  | _ => .error .malformed

/-- The document form of an enumeration. -/
def record : Record Enumeration where
  initial := { variants := [] }
  fields := [
    .of "name" false asString fun name e => { e with name },
    .of "rename" false (asOption asString) fun rename e => { e with rename },
    .of "variants" true (asList variantOfJson) fun variants e => { e with variants },
    .of "location" false Location.ofJson fun location e => { e with location }]

/-- Read an enumeration. -/
def ofJson : Decoder Enumeration := record.read

/-- The document of an enumeration. -/
def toJson (enumeration : Enumeration) : Json :=
  object [("name", string enumeration.name), ("rename", optional enumeration.rename),
    ("variants", array (enumeration.variants.map fun v => array [string v.1, integer v.2])),
    ("location", enumeration.location.toJson)]

end Enumeration

/-- Another name for a type. -/
structure Typedef where
  name : String
  underlying : CxxType
  deriving DecidableEq

namespace Typedef

/-- The document form of a typedef. -/
def record : Record Typedef where
  initial := { name := "", underlying := .void }
  fields := [
    .of "name" true asString fun name t => { t with name },
    .of "underlying" true asType fun underlying t => { t with underlying }]

/-- Read a typedef. -/
def ofJson : Decoder Typedef := record.read

/-- The document of a typedef. -/
def toJson (typedef : Typedef) : Json :=
  object [("name", string typedef.name), ("underlying", string typedef.underlying.signature)]

end Typedef

end FortranBindings
