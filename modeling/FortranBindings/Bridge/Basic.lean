import FortranBindings.Decl.Class
import FortranBindings.Text.Code

/-!
# Bridges

A bridge makes a C++ declaration callable from Fortran. It is a wrapper, a function with C linkage,
together with the interface that describes the wrapper to Fortran. Both are kept apart by their
parts here; `Wrapper.render` and `BindInterface.render` write them out.
-/

namespace FortranBindings

/-- The C type of functions without a result. -/
def voidName : String := "void"

/-- A function with C linkage. -/
structure Wrapper where
  name : String
  /-- The C type that is returned. -/
  returnType : String
  /-- The C types and names of the arguments. -/
  arguments : List (String × String)
  /-- The C++ types and names of the local variables. -/
  locals : List (String × String)
  /-- Code that fills the local variables from the arguments. -/
  input : List String
  /-- Code that checks the local variables. -/
  check : List String
  /-- Code that invokes the C++ entity. -/
  action : List String
  /-- Code that makes what is returned from the C++ result. -/
  output : List String
  /-- Code that writes results back to arguments. -/
  argout : List String
  /-- Code that frees what the arguments took. -/
  cleanup : List String
  deriving DecidableEq

namespace Wrapper

/-- Does the wrapper return nothing? -/
def isSubroutine (wrapper : Wrapper) : Bool := wrapper.returnType = voidName

/-- The lines of code behind the declarations, in the order they are run. -/
def statements (wrapper : Wrapper) : List String :=
  wrapper.input ++ wrapper.check ++ wrapper.action ++ wrapper.output ++ wrapper.argout ++
    wrapper.cleanup

/-- The declaration of a local variable. -/
def localLine (declared : String × String) : String :=
  "  " ++ declared.1 ++ " " ++ declared.2 ++ " ;\n"

/-- The line that starts the wrapper, with its arguments. -/
def header (wrapper : Wrapper) : String :=
  let arguments := ", ".intercalate (wrapper.arguments.map fun a => a.1 ++ " " ++ a.2)
  "SWIGEXPORT " ++ wrapper.returnType ++ " " ++ wrapper.name ++ "(" ++ arguments ++ ") \x7b\n"

/-- The C++ source of the wrapper. -/
def render (wrapper : Wrapper) : String :=
  wrapper.header ++
    (if wrapper.isSubroutine then "" else localLine (wrapper.returnType, "fresult")) ++
    String.join (wrapper.locals.map localLine) ++ "\n" ++
    Text.indented "  " wrapper.statements ++
    (if wrapper.isSubroutine then ""
      else "  return (" ++ wrapper.returnType ++ ")fresult;\n") ++
    "\x7d\n\n"

end Wrapper

/-- The description of a wrapper for Fortran. -/
structure BindInterface where
  name : String
  /-- The names of the arguments and the types they are declared with. -/
  arguments : List (String × String)
  /-- The type that the result is declared with, unless there is none. -/
  result : Option String
  deriving DecidableEq

namespace BindInterface

/-- What kind of procedure the wrapper is. -/
def kind (interface : BindInterface) : String :=
  if interface.result.isSome then "function" else "subroutine"

/-- The line that starts the interface, with its arguments. -/
def title (interface : BindInterface) : String :=
  interface.kind ++ " " ++ interface.name ++ "(" ++
    ", ".intercalate (interface.arguments.map (·.1)) ++ ") &\n"

/-- The lines that declare the arguments. -/
def declarations (interface : BindInterface) : String :=
  String.join (interface.arguments.map fun a => a.2 ++ " :: " ++ a.1 ++ "\n")

/-- The Fortran source of the interface. -/
def render (interface : BindInterface) : String :=
  interface.title ++ "bind(C, name=\"" ++ interface.name ++ "\")" ++
    (if interface.result.isSome then " &\nresult(fresult)\n" else "\n") ++
    "use, intrinsic :: ISO_C_BINDING\n" ++ interface.declarations ++
    interface.result.elim "" (· ++ " :: fresult\n") ++ "end " ++ interface.kind ++ "\n"

end BindInterface

/-- A wrapper with its interface and what both were made from. -/
structure Bridge where
  wrapper : Wrapper
  interface : BindInterface
  /-- The parameters, with the implicit object in front. -/
  parameters : List Parameter
  /-- For each parameter its typemaps together with the one found for `in`. -/
  attachments : List Attachments
  result : CxxType
  deriving DecidableEq

namespace Bridge

/-- The name of the wrapper, which it is linked under too. -/
def name (bridge : Bridge) : String := bridge.wrapper.name

/-- Does the bridge return nothing? -/
def isSubroutine (bridge : Bridge) : Bool := bridge.wrapper.isSubroutine

/-- The names of the arguments. -/
def arguments (bridge : Bridge) : List String := bridge.wrapper.arguments.map (·.2)

/-- Does the parameter at a position take no argument from the caller? -/
def isZeroInput (bridge : Bridge) (position : Nat) : Bool :=
  (bridge.attachments[position]?.map Attachments.isZeroInput).getD false

end Bridge

end FortranBindings
