import FortranBindings.Config
import FortranBindings.Proxy.ArgumentName
import FortranBindings.Proxy.Basic
import FortranBindings.Bridge.Basic
import FortranBindings.Template.Lookup

/-!
# Making proxies

A proxy is made from a bridge by looking up the Fortran templates of its parameters and its result.
Parameters that take no argument from the caller do not appear. The order of the lookups is the
order of their diagnostics.
-/

namespace FortranBindings

namespace Proxy

/-- A parameter that appears in a proxy, with its number in the bridge and its typemaps. -/
structure Slot where
  number : Nat
  parameter : Parameter
  attachments : Attachments

/-- The parameters of a bridge that take an argument from the caller. -/
def slots (bridge : Bridge) : List Slot :=
  ((bridge.parameters.zip bridge.attachments).zipIdx 1).filterMap
    fun ((parameter, attachments), number) =>
      if attachments.isZeroInput then none else some { number, parameter, attachments }

/-- The dummy argument in front of those for the parameters: the object that a constructor fills. -/
def receiver (mode : ProxyMode) : List String :=
  if mode = .constructor then ["self"] else []

/-- The names of the dummy arguments for the parameters of a routine. -/
def dummyNames (mode : ProxyMode) (routineName : String) (slots : List Slot) : List String :=
  ArgumentName.chooseAll (receiver mode ++ [routineName.toLower])
    (slots.map fun slot => (slot.number, slot.parameter.name))

/-- What the templates of a parameter give. -/
structure Fragments where
  /-- The Fortran type of the dummy argument. -/
  type : String
  /-- What is passed to the bridge. -/
  argument : String
  /-- Code before the call. -/
  pre : List String
  /-- Code behind the call. -/
  post : List String

/-- The type of a dummy argument that is an object of a derived type and can change. -/
def objectType (className : Option String) : String :=
  "class(" ++ className.getD "" ++ "), intent(inout)"

/-- Look up the Fortran type of a dummy argument. The object that a destructor releases is one of
the class. -/
def dummyType (sources : Sources) (mode : ProxyMode) (className : Option String)
    (request : Request) (number : Nat) : Lookup String := do
  if mode = .destructor ∧ number = 1 then return objectType className
  Lookup.code sources request

/-- Look up the templates of a parameter whose dummy argument has a name. -/
def fragments (sources : Sources) (location : Location) (mode : ProxyMode)
    (className : Option String) (slot : Slot) (name : String) : Lookup Fragments := do
  let request operation need : Request := {
    operation, type := slot.parameter.type, attached := slot.attachments, need, location }
  let fill (code : String) := Text.substitute code [("$input", name)]
  let lines operation : Lookup (List String) := do
    let typemap ← Lookup.find sources (request operation .optional)
    return typemap.elim [] fun t => Text.codeLines (fill t.code)
  let type ← dummyType sources mode className (request "ftype" .required) slot.number
  let argument ← Lookup.code sources (request "fin" .required)
  let pre ← lines "fpre"
  let post ← lines "fpost"
  return { type, argument := fill argument, pre, post }

/-- The operation and the type that the body of a proxy is looked up with. -/
def bodyOperation (bridge : Bridge) : ProxyMode → String × CxxType
  | .function => ("fout", bridge.result)
  | .constructor => ("fcreate", bridge.result)
  | .destructor => ("frelease", (bridge.parameters.head?.map Parameter.type).getD .void)

/-- The lines of a body template with a call in it. -/
def bodyLines (template result call owner : String) : List String :=
  Text.codeLines (Text.withoutLeadingBlanks (Text.substitute template
    [("$result", result), ("$imcall", call), ("$owner", owner)]))

/-- The name of the routine for a callable. A free function keeps its own name unless it is
overloaded. -/
def routineName (config : Config) (callable : Callable) (owner : Option Class) : String :=
  if owner.isNone ∧ !callable.isOverloaded then callable.symbolIn none
  else config.proxyPrefix ++ callable.symbolIn owner ++ callable.overload.getD ""

/-- Look up the declaration of the result of a function. A subroutine has none. -/
def resultDeclaration (sources : Sources) (bridge : Bridge) (location : Location)
    (isSubroutine : Bool) : Lookup (List (String × String)) := do
  if isSubroutine then return []
  let type ← Lookup.code sources
    { operation := "ftype", suffix := some "out", type := bridge.result, need := .required,
      location }
  return [(type, Routine.resultName)]

/-- Make the proxy of a declaration. `owner` is the class it is bound in, and the Fortran name of
that class. -/
def make (sources : Sources) (config : Config) (callable : Callable) (mode : ProxyMode)
    (bridge : Bridge) (owner : Option (Class × String)) : Lookup Proxy := do
  let location := callable.location
  let className := owner.map (·.2)
  let name := routineName config callable (owner.map (·.1))
  let isSubroutine := mode ≠ .function || bridge.isSubroutine
  let slots := slots bridge
  let names := dummyNames mode name slots
  let resultDeclaration ← resultDeclaration sources bridge location isSubroutine
  let parts ← (slots.zip names).mapM fun (slot, dummy) =>
    fragments sources location mode className slot dummy
  let callArguments := parts.map (·.argument)
  let (operation, type) := bodyOperation bridge mode
  let template ← Lookup.code sources { operation, type, need := .required, location }
  let call := bridge.name ++ "(" ++ ", ".intercalate callArguments ++ ")"
  let body := bodyLines template (if isSubroutine then "" else Routine.resultName) call
    (if callable.features.newObject then ".true." else ".false.")
  let routine : Routine := {
    name, isSubroutine
    dummyArguments := receiver mode ++ names
    declarations := (receiver mode).map (objectType className, ·) ++ resultDeclaration ++
      (parts.map (·.type)).zip names
    statements := callable.features.prepend.elim [] Text.codeLines ++ parts.flatMap (·.pre) ++
      body ++ parts.flatMap (·.post) ++ callable.features.append.elim [] Text.codeLines }
  return { routine, callArguments }

/-- Make the routine that releases the object of a class when a variable goes out of scope. -/
def makeFinalizer (sources : Sources) (config : Config) (cls : Class) (className : String)
    (bridge : Bridge) : Lookup Routine := do
  let request operation : Request :=
    { operation, type := cls.handle false, need := .required, location := cls.location }
  let argument ← Lookup.code sources (request "fin")
  let template ← Lookup.code sources (request "frelease")
  let call := bridge.name ++ "(" ++ Text.substitute argument [("$input", "self")] ++ ")"
  return {
    name := config.proxyPrefix ++ "final_" ++ className
    isSubroutine := true
    dummyArguments := ["self"]
    declarations := [("type(" ++ className ++ ")", "self")]
    statements := bodyLines template "" call ".false." }

end Proxy

end FortranBindings
