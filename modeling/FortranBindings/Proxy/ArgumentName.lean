/-!
# Names of dummy arguments

The dummy arguments of a proxy routine are named after the parameters. Fortran does not tell upper
from lower case, so that names are compared in lower case. A name that Fortran reserves, that is no
Fortran name or that was given away gets its number behind it, and if that does not help another
name is made of the number alone.
-/

namespace FortranBindings.ArgumentName

/-- Names that no dummy argument may have. -/
def reserved : List String := [
  "allocatable", "allocate", "associate", "block", "call", "case", "character", "class", "common",
  "complex", "contains", "cycle", "data", "deallocate", "default", "dimension", "do", "double",
  "else", "elseif", "end", "entry", "enum", "enumerator", "exit", "external", "final", "format",
  "function", "generic", "go", "goto", "if", "implicit", "import", "in", "inout", "integer",
  "intent", "interface", "intrinsic", "kind", "len", "logical", "module", "none", "nullify", "only",
  "optional", "out", "parameter", "pointer", "precision", "private", "procedure", "program",
  "public", "real", "result", "return", "save", "select", "sequence", "stop", "subroutine",
  "target", "then", "type", "use", "value", "where", "while", "fresult", "swig_result"]

/-- Is the text a letter followed by letters, digits and underscores? -/
def isValid (name : String) : Bool :=
  match name.toList with
  | [] => false
  | c :: rest => c.isAlpha && rest.all fun d => d.isAlphanum || d == '_'

/-- Can the name be given away? `used` are the names, in lower case, that cannot. -/
def isFree (used : List String) (name : String) : Bool :=
  name.toLower ∉ reserved && name.toLower ∉ used

/-- The names to try for the parameter with a number, in order. There are enough of them for one to
be free. -/
def candidates (used : List String) (number : Nat) (name : String) : List String :=
  let plain := "arg" ++ toString number
  (if isValid name then [name, name ++ toString number] else []) ++ [plain] ++
    (List.range (used.length + 1)).map fun k => plain ++ "_" ++ toString (number + k)

/-- The name for the parameter with a number. -/
def choose (used : List String) (number : Nat) (name : String) : String :=
  ((candidates used number name).find? (isFree used)).getD ""

/-- The names for parameters with their numbers, one after the other. -/
def chooseAll (used : List String) : List (Nat × String) → List String
  | [] => []
  | (number, name) :: rest =>
    let chosen := choose used number name
    chosen :: chooseAll (chosen.toLower :: used) rest

end FortranBindings.ArgumentName
