import FortranBindings.Decl.Class
import FortranBindings.Overloads
import FortranBindings.Text.Code

/-!
# Derived types and enumerations in Fortran

A class becomes a derived type whose `contains` part binds the proxies of its members. While the
class is generated these bindings are collected in an `OpenClass`. An enum becomes a block of
enumerators, the first of which is its marker. A class that is used but not known becomes an empty
shell of a derived type.
-/

namespace FortranBindings

/-- A procedure bound in a derived type. -/
structure ProcedureBinding where
  isPrivate : Bool
  name : String
  /-- The routine that is called. -/
  routine : String
  deriving DecidableEq, Repr

/-- The line that binds a procedure. -/
def ProcedureBinding.render (binding : ProcedureBinding) : String :=
  (if binding.isPrivate then "  procedure, private :: " else "  procedure :: ") ++ binding.name ++
    " => " ++ binding.routine ++ "\n"

/-- A class whose members are being generated. -/
structure OpenClass where
  cls : Class
  /-- The name of the derived type. -/
  name : String
  procedures : List ProcedureBinding := []
  overloads : Overloads := {}
  /-- The routine that is called when a variable of the type goes out of scope. -/
  finalizer : Option String := none
  deriving DecidableEq

namespace OpenClass

/-- Bind a procedure. -/
def bind (opened : OpenClass) (binding : ProcedureBinding) : OpenClass :=
  { opened with procedures := opened.procedures ++ [binding] }

/-- Bind one of several overloaded procedures under a common name. -/
def bindOverload (opened : OpenClass) (publicName name routine : String) : OpenClass :=
  { opened with overloads := opened.overloads.record publicName name }.bind
    ⟨true, name, routine⟩

/-- The `contains` part of the derived type, empty if nothing is bound. -/
def renderBindings (opened : OpenClass) : String :=
  let bindings := String.join (opened.procedures.map ProcedureBinding.render) ++
    opened.overloads.genericBindings ++
    opened.finalizer.elim "" fun routine => "  final :: " ++ routine ++ "\n"
  if opened.procedures = [] ∧ opened.overloads.entries = [] ∧ opened.finalizer = none then ""
  else " contains\n" ++ bindings

end OpenClass

/-- A definition of a type in a Fortran module. -/
inductive TypeBlock
  /-- The enumerators of an enum, its marker first. -/
  | enumeration (enumerators : List (String × Int))
  /-- The derived type of a class with the lines that declare its data. -/
  | derived (cls : OpenClass) (data : List String)
  /-- The derived type that stands for a class which is not known. -/
  | shell (name : String) (data : List String)
  deriving DecidableEq

namespace TypeBlock

/-- The Fortran source of a type. -/
def render : TypeBlock → String
  | enumeration enumerators =>
    " enum, bind(c)\n" ++
      String.join (enumerators.map fun e =>
        "  enumerator :: " ++ e.1 ++ " = " ++ toString e.2 ++ "\n") ++
      " end enum\n"
  | derived cls data =>
    " type :: " ++ cls.name ++ "\n" ++ Text.indented "  " data ++ cls.renderBindings ++
      " end type " ++ cls.name ++ "\n"
  | shell name data =>
    " type, public :: " ++ name ++ "\n" ++ Text.indented "  " data ++ " end type " ++ name ++ "\n"

end TypeBlock

end FortranBindings
