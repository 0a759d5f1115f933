import FortranBindings.Bridge.Action
import FortranBindings.Bridge.Basic
import FortranBindings.Template.Lookup

/-!
# Making bridges

A bridge is made from a declaration by looking up the templates of its result and of each parameter.
First all typemaps for `in` are found, then the code that frees arguments, because other code may
repeat it through the token `$cleanup`. Then come the parameters one after the other, the action and
the result. The order of these lookups is the order of their diagnostics.
-/

namespace FortranBindings

/-- Look up the type that the result of the wrapper is declared with in Fortran. -/
def Wrapper.fortranResult (sources : Sources) (request : Request) (wrapper : Wrapper) :
    Lookup (Option String) := do
  if wrapper.isSubroutine then return none
  return some (← Lookup.code sources request)

/-- The argument of a wrapper for the parameter with a number. -/
def argumentName (number : Nat) : String := "farg" ++ toString number

namespace Bridge

/-- A parameter with its number, its typemaps and the way it is held. -/
structure Slot where
  number : Nat
  parameter : Parameter
  attachments : Attachments
  held : Held

namespace Slot

/-- A request for a template for the parameter. -/
def request (slot : Slot) (location : Location) (need : Need) (operation : String) : Request where
  operation := operation
  type := slot.parameter.type
  attached := slot.attachments
  need := need
  location := location

/-- What the tokens of the parameter's templates stand for. -/
def replacements (slot : Slot) : Text.Replacements := [
  ("$input", if slot.attachments.isZeroInput then "" else argumentName slot.number),
  ("$1", localName slot.number),
  ("$1_ltype", slot.held.type.signature),
  ("$1_basetype", slot.parameter.type.bare.signature)]

/-- The declaration of the local variable for the parameter. -/
def declaration (slot : Slot) : String × String :=
  (slot.held.type.signature, localName slot.number)

/-- The lines of an optional template of the parameter. -/
def optionalLines (sources : Sources) (location : Location) (replacements : Text.Replacements)
    (operation : String) (slot : Slot) : Lookup (List String) := do
  match ← Lookup.find sources (slot.request location .optional operation) with
  | some typemap => return Text.codeLines (Text.substitute typemap.code replacements)
  | none => return []

/-- The C type and the Fortran declaration of the argument for the parameter. There is none if the
typemap for `in` takes no argument from the caller. -/
def argument (sources : Sources) (location : Location) (input : Option Typemap) (slot : Slot) :
    Lookup (Option (String × String)) := do
  if input.any Typemap.isZeroInput then return none
  let cType ← Lookup.code sources (slot.request location .required "ctype")
  let fortranType ← Lookup.code sources (slot.request location .required "imtype")
  return some (cType, fortranType)

end Slot

/-- The slots of some parameters, numbered from one. -/
def slotsOf (decls : Declarations) (parameters : List Parameter)
    (attachments : List Attachments) : List Slot :=
  ((parameters.zip attachments).zipIdx 1).map fun ((parameter, attachments), number) =>
    { number, parameter, attachments, held := Held.ofParameter decls parameter.type }

/-- What the templates of a parameter give. -/
structure Fragments where
  /-- The C type and the Fortran declaration of the argument, unless there is none. -/
  argument : Option (String × String)
  input : List String
  check : List String
  argout : List String

/-- Look up the templates of a parameter. `cleanup` is the code that frees all arguments. -/
def fragments (sources : Sources) (location : Location) (cleanup : List String) (slot : Slot) :
    Lookup Fragments := do
  let template ← Lookup.find sources (slot.request location .required "in")
  let argument ← slot.argument sources location template
  let input := template.elim [] fun t =>
    Text.codeLines (Text.substitute t.code slot.replacements)
  let replacements := slot.replacements ++ [("$cleanup", Text.joinedLines cleanup)]
  let check ← slot.optionalLines sources location replacements "check"
  let argout ← slot.optionalLines sources location replacements "argout"
  return { argument, input, check, argout }

/-- The names of the arguments, each with its C type and its Fortran declaration. -/
def argumentsOf (slots : List Slot) (parts : List Fragments) : List (String × String × String) :=
  (slots.zip parts).filterMap fun (slot, part) =>
    part.argument.map fun types => (argumentName slot.number, types)

/-- The code that invokes the entity, inside of the code for exceptions if there is any. -/
def actionLines (callable : Callable) (action : String) : List String :=
  match callable.features.exception with
  | some exception =>
    Text.codeLines (Text.substitute exception [("$action", Text.withoutTrailingBlanks action)])
  | none => Text.codeLines action

/-- The C++ code that invokes the entity, as declared or as its kind has it. -/
def actionOf (callable : Callable) (owner : Option Class) (slots : List Slot) (result : CxxType)
    (resultHeld : Held) : Except GenerateError String :=
  match callable.action with
  | some action => .ok action
  | none => callable.defaultAction owner (slots.map (·.held)) result resultHeld

/-- Look up the code that makes what is returned from the C++ result. -/
def outputLines (sources : Sources) (callable : Callable) (result : CxxType) (held : Held)
    (cleanup : List String) : Lookup (List String) := do
  if result.isVoid then return []
  let template ← Lookup.code sources
    { operation := "out", type := result, need := .required, location := callable.location }
  return Text.codeLines (Text.substitute template [
    ("$result", "fresult"),
    ("$1", "result"),
    ("$1_ltype", held.type.signature),
    ("$1_basetype", result.bare.signature),
    ("$owner", if callable.features.newObject then "1" else "0"),
    ("$cleanup", Text.joinedLines cleanup)])

/-- Make the bridge of a declaration under a name. -/
def make (sources : Sources) (callable : Callable) (owner : Option Class) (name : String) :
    ExceptT GenerateError Lookup Bridge := do
  let location := callable.location
  let result := callable.resultIn owner
  let parameters := callable.parametersIn owner
  let ofResult operation : Request :=
    { operation, suffix := some "out", type := result, need := .required, location }
  let returnType ← Lookup.code sources (ofResult "ctype")
  let attachments ← (parameters.mapM (Lookup.attach sources "in" .required location) : Lookup _)
  let slots := slotsOf sources.decls parameters attachments
  let cleanups ← (slots.mapM fun slot =>
    slot.optionalLines sources location slot.replacements "freearg" : Lookup _)
  let cleanup := cleanups.flatten
  let parts ← (slots.mapM (fragments sources location cleanup) : Lookup _)
  let resultHeld := Held.ofResult sources.decls result
  let action ← liftExcept (actionOf callable owner slots result resultHeld)
  let output ← outputLines sources callable result resultHeld cleanup
  let resultVariables := if result.isVoid then [] else [(resultHeld.type.signature, "result")]
  let arguments := argumentsOf slots parts
  let wrapper : Wrapper := {
    name, returnType
    arguments := arguments.map fun (argument, types) => (types.1, argument)
    locals := slots.map Slot.declaration ++ resultVariables
    input := parts.flatMap (·.input)
    check := parts.flatMap (·.check)
    action := actionLines callable action
    output
    argout := parts.flatMap (·.argout)
    cleanup }
  let fortranResult ← wrapper.fortranResult sources (ofResult "imtype")
  let interface : BindInterface := {
    name
    arguments := arguments.map fun (argument, types) => (argument, types.2)
    result := fortranResult }
  return { wrapper, interface, parameters, attachments, result }

end Bridge

end FortranBindings
