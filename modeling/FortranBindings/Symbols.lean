import FortranBindings.Decl.Location
import FortranBindings.Dict

/-!
# Symbols

Names that must be unique in a module, each with the place of its first definition. Registering a
name again changes nothing and gives that place.
-/

namespace FortranBindings

/-- Names with the places of their definitions. -/
abbrev Symbols := Dict Location

namespace Symbols

/-- Register a name, or give the place where it is defined already. -/
def register (symbols : Symbols) (name : String) (location : Location) :
    Except Location Symbols :=
  match symbols.find? name with
  | some previous => .error previous
  | none => .ok (symbols.insert name location)

end Symbols

end FortranBindings
