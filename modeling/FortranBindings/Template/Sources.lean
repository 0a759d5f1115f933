import FortranBindings.Declarations.Resolution
import FortranBindings.TypemapTable.Library

/-!
# Where templates come from

A template is asked for by an operation and a type. A store answers for signatures only, so that a
type is tried under several signatures, the most specific one first (`Sources.signatures`): as it
was declared, with its typedefs resolved, without its outermost `const`, and in the generic form in
which `SWIGTYPE` or `SWIGENUM` stands for its base. `Sources.search?` is the first hit.

`Sources.fortranName?` is the name that stands for a class or enum in Fortran.
-/

namespace FortranBindings

/-- Typemaps by operation and signature. -/
abbrev TypemapStore := String → String → Option Typemap

/-- What templates are looked up in: the declarations, and a store of typemaps. -/
structure Sources where
  decls : Declarations
  store : TypemapStore

/-- The token for the Fortran name of a class or enum. -/
def classToken : String := "$fclassname"

/-- The Fortran kind of enums without a marker. -/
def fallbackEnumerationKind : String := "C_INT"

/-- What stands for code or for a class that is not known, such as `SWIGTYPE_p_double`. -/
def placeholderName (type : CxxType) : String := "SWIGTYPE_" ++ type.mangle

namespace Sources

/-- The name in signatures that stands for the base of a type without typedefs. -/
def genericName? (sources : Sources) (resolved : CxxType) : Option String :=
  match sources.decls.categorize resolved with
  | .ok (.enumeration _) | .ok (.unknownEnumeration _) => some genericEnumeration
  | .ok (.cls _) | .ok (.unknown _) => some genericClass
  | _ => none

/-- The signatures to look a type up with, the most specific one first. -/
def signatures (sources : Sources) (type : CxxType) : List String :=
  let resolved := sources.decls.resolveOrKeep type
  let plain := resolved.withoutQualifiers
  let generic :=
    match sources.genericName? resolved with
    | some name => [resolved.replaceBase (.named name), plain.replaceBase (.named name)]
    | none => []
  ([type, resolved, plain] ++ generic).map CxxType.signature

/-- The first typemap that the store has for one of the operations and one of the signatures. -/
def search? (sources : Sources) (operations : List String) (type : CxxType) : Option Typemap :=
  let signatures := sources.signatures type
  operations.findSome? fun operation => signatures.findSome? (sources.store operation)

/-- The Fortran name of the class or enum that a type is built on, if it is known to be one. -/
def fortranName? (sources : Sources) (type : CxxType) : Option String :=
  match sources.decls.categorize (sources.decls.resolveOrKeep type).bare with
  | .ok (.enumeration e) => some (e.marker?.getD fallbackEnumerationKind)
  | .ok (.unknownEnumeration _) => some fallbackEnumerationKind
  | .ok (.cls cls) => some cls.publicName
  | _ => none

/-- The placeholder for the class that a type would have to be built on. -/
def placeholderClass (sources : Sources) (type : CxxType) : String :=
  placeholderName (sources.decls.resolveOrKeep type).bare

end Sources

end FortranBindings
