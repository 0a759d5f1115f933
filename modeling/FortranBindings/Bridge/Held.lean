import FortranBindings.Declarations.Resolution

/-!
# How values are held

A bridge holds every C++ value in a local variable that can be declared first and assigned later. A
reference is held through a pointer, and so is a parameter that is a class by value. Everything else
is held as it is, without its outermost `const`.
-/

namespace FortranBindings

/-- The type of a local variable. -/
structure Held where
  type : CxxType
  /-- Does the variable point to the value that was declared? -/
  isIndirect : Bool
  deriving DecidableEq

namespace Held

/-- A local variable that points to a value of a type. -/
def through (type : CxxType) : Held := ⟨.pointer type, true⟩

/-- A local variable of a type itself. -/
def directly (type : CxxType) : Held := ⟨type.withoutQualifiers, false⟩

/-- How the argument for a parameter of a type is held. -/
def ofParameter (decls : Declarations) (type : CxxType) : Held :=
  match decls.resolveOrKeep type with
  | .declared _ .pointer _ => directly type
  | .declared _ _ inner => through inner
  | .base c b =>
    match decls.categorize (.base c b) with
    | .ok category => if category.isClassLike then through type else directly type
    | .error _ => directly type

/-- How a result of a type is held. -/
def ofResult (decls : Declarations) (type : CxxType) : Held :=
  match decls.resolveOrKeep type with
  | .declared _ .pointer _ => directly type
  | .declared _ _ inner => through inner
  | .base .. => directly type

/-- The value that the local variable of a name holds, as an expression. -/
def expression (held : Held) (name : String) : String :=
  if held.isIndirect then "*" ++ name else name

end Held

end FortranBindings
