import FortranBindings.Config
import FortranBindings.Declarations.Basic
import FortranBindings.DerivedType
import FortranBindings.Proxy.Basic
import FortranBindings.Bridge.Basic

/-!
# The sources of a module

A module consists of a C++ source with the wrappers and a Fortran source with everything else. While
a module is generated its parts are kept in lists, each in the order of the declarations; the two
sources are put together at the end.
-/

namespace FortranBindings

/-- The parts of a module. -/
structure ModuleParts where
  wrappers : List Wrapper := []
  interfaces : List BindInterface := []
  /-- The names that are made public, line by line. -/
  publics : List (List String) := []
  types : List TypeBlock := []
  /-- The overloaded functions. -/
  overloads : Overloads := {}
  routines : List Routine := []
  deriving DecidableEq

namespace ModuleParts

/-- The definition of the macro that exports a wrapper. The text ends with `#endif` and has no line
break of its own: in the printed source the line of `#endif` is directly followed by the line
`extern "C" {`, with no empty line in between. -/
def exportMacro : String :=
  "#ifndef SWIGEXPORT\n" ++
  "# if defined(_WIN32) || defined(__WIN32__) || defined(__CYGWIN__)\n" ++
  "#   define SWIGEXPORT __declspec(dllexport)\n" ++
  "# elif defined(__GNUC__)\n" ++
  "#   define SWIGEXPORT __attribute__ ((visibility(\"default\")))\n" ++
  "# else\n" ++
  "#   define SWIGEXPORT\n" ++
  "# endif\n" ++
  "#endif"

/-- The line that includes a header; quotes are put around a name without any. -/
def includeLine (header : String) : String :=
  let isQuoted := header.toList.head? = some '<' || header.toList.head? = some '"'
  "#include " ++ (if isQuoted then header else "\"" ++ header ++ "\"") ++ "\n"

/-- A part of a source with a separator in front, or nothing if the part is empty. -/
def precededBy (separator text : String) : String :=
  if text.isEmpty then "" else separator ++ text

/-- The C++ source of a module. -/
def cxxSource (parts : ModuleParts) (decls : Declarations) : String :=
  let includes := String.join (decls.includes.map includeLine)
  let init := String.join (decls.init.map fun code => Text.withoutTrailingBlanks code ++ "\n")
  (if includes.isEmpty then "" else includes ++ "\n") ++ exportMacro ++ "\n" ++
    "extern \"C\" \x7b\n\n" ++ String.join (parts.wrappers.map Wrapper.render) ++
    "\x7d // extern \"C\"\n" ++ precededBy "\n" init

/-- The Fortran source of a module. -/
def fortranSource (parts : ModuleParts) (config : Config) (name : String) : String :=
  let publics := String.join (parts.publics.map fun names =>
    " public :: " ++ ", ".intercalate names ++ "\n")
  let interfaces := String.join (parts.interfaces.map BindInterface.render)
  "module " ++ name ++ "\n use, intrinsic :: ISO_C_BINDING\n" ++
    String.join (config.imports.map fun other => " use " ++ other ++ "\n") ++
    " implicit none\n private\n" ++
    precededBy "\n" publics ++
    precededBy "\n" (String.join (parts.types.map TypeBlock.render)) ++
    precededBy "\n" parts.overloads.moduleInterfaces ++
    (if interfaces.isEmpty then "" else "\n interface\n" ++ interfaces ++ " end interface\n") ++
    precededBy "\ncontains\n" (String.join (parts.routines.map Routine.render)) ++
    "\nend module " ++ name ++ "\n"

end ModuleParts

/-- What was generated for a declaration. -/
structure Binding where
  /-- The C++ name of the declaration. -/
  name : String
  /-- The Fortran name of the class that it is a member of. -/
  className : Option String
  wrapper : String
  /-- The proxy routine, unless none is made. -/
  proxy : Option String
  deriving DecidableEq, Repr

end FortranBindings
