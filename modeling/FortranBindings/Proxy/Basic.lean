import FortranBindings.Decl.Class
import FortranBindings.Text.Code

/-!
# Proxies

A proxy is a Fortran routine that calls a bridge. It is kept by its parts here and written out by
`Routine.render`. How the body of a proxy comes about depends on what it does: call a function,
create an object or release one.
-/

namespace FortranBindings

/-- A Fortran routine. -/
structure Routine where
  name : String
  /-- The routine is a function, whose result is `swig_result`, unless it is a subroutine. -/
  isSubroutine : Bool
  dummyArguments : List String
  /-- The types and names that are declared. -/
  declarations : List (String × String)
  /-- The lines of code behind the declarations. -/
  statements : List String
  deriving DecidableEq

namespace Routine

/-- The name of a function's result. -/
def resultName : String := "swig_result"

/-- The Fortran source of the routine. -/
def render (routine : Routine) : String :=
  let kind := if routine.isSubroutine then "subroutine" else "function"
  kind ++ " " ++ routine.name ++ "(" ++ ", ".intercalate routine.dummyArguments ++ ")" ++
    (if routine.isSubroutine then "\n" else " &\nresult(" ++ resultName ++ ")\n") ++
    "use, intrinsic :: ISO_C_BINDING\n" ++
    String.join (routine.declarations.map fun d => d.1 ++ " :: " ++ d.2 ++ "\n") ++
    Text.indented "" routine.statements ++
    "end " ++ kind ++ "\n\n"

end Routine

/-- What a proxy does. -/
inductive ProxyMode
  /-- Calls the bridge and returns what it returns. -/
  | function
  /-- Fills the object `self` of the caller with a new C++ object. -/
  | constructor
  /-- Releases the C++ object. -/
  | destructor
  deriving DecidableEq, Repr

/-- What the proxy of a callable of some kind does. -/
def ProxyMode.ofKind : CallableKind → ProxyMode
  | .constructor => constructor
  | .destructor => destructor
  | _ => function

/-- A routine with the arguments it passes to the bridge. -/
structure Proxy where
  routine : Routine
  callArguments : List String
  deriving DecidableEq

namespace Callable

/-- The name that the variants of an overloaded member are bound under, without what tells them
apart. -/
def bindingBase (callable : Callable) : ProxyMode → String
  | .constructor => "create"
  | .destructor => "release"
  | .function => Text.sanitize (Text.unqualified callable.name)

/-- The name that a member is bound under in its derived type. -/
def bindingName (callable : Callable) (mode : ProxyMode) : String :=
  match mode, callable.kind with
  | .constructor, _ => "create"
  | .destructor, _ => "release"
  | .function, .accessor field role => callable.rename.getD (role.word ++ "_" ++ field)
  | .function, _ => callable.publicName

end Callable

end FortranBindings
