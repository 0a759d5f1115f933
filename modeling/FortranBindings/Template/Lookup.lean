import FortranBindings.Diagnostic
import FortranBindings.Template.Sources
import FortranBindings.Text.Template

/-!
# Looking templates up

`Lookup.find` answers a request for the template of an operation on a type. A typemap attached to
the request comes first, then what the store has. In what is found the token `$fclassname` is
replaced. A miss is an answer of its own for an optional operation; for a required one it is
reported and a placeholder takes the place of the template.

Answers from the store are kept, so that a miss is reported once for each operation and type.
`Lookup.answer?` is the answer to a request without any history. The requests before it do not
change that answer as long as a name such as `ctype:out` always means the same: `ctype` with the
suffix `out`, and not at another time an operation of that name without a suffix.
-/

namespace FortranBindings

/-- Is a template needed? -/
inductive Need
  /-- A miss is nothing to report. -/
  | optional
  /-- A miss is reported, and a placeholder stands in. -/
  | required
  deriving DecidableEq, Repr

/-- A request for a template. -/
structure Request where
  operation : String
  /-- A variant of the operation that is tried before it. -/
  suffix : Option String := none
  type : CxxType
  /-- Typemaps that come before those of the store. -/
  attached : Attachments := {}
  need : Need
  /-- The place to name in a report. -/
  location : Location

/-- The operations to try, the more special one first. -/
def Request.operations (request : Request) : List String :=
  match request.suffix with
  | some suffix => [request.operation ++ ":" ++ suffix, request.operation]
  | none => [request.operation]

/-- The operation that a report names and an answer is kept under. -/
def Request.mainOperation (request : Request) : String :=
  match request.suffix with
  | some suffix => request.operation ++ ":" ++ suffix
  | none => request.operation

/-- The typemap that is attached to the request. -/
def Request.attached? (request : Request) : Option Typemap :=
  request.operations.findSome? request.attached.find?

/-- An answer that is kept. -/
inductive Answer
  | found (typemap : Typemap)
  | placeholder (typemap : Typemap)
  deriving DecidableEq

/-- What looking templates up leaves behind. -/
structure LookupState where
  /-- Answers by operation and signature. -/
  answers : Dict (Dict Answer) := {}
  /-- The placeholder classes that were named, in order and without repetition. -/
  opaqueTypes : List String := []
  diagnostics : List Diagnostic := []
  deriving DecidableEq

namespace LookupState

/-- Report a diagnostic. -/
def report (state : LookupState) (diagnostic : Diagnostic) : LookupState :=
  { state with diagnostics := state.diagnostics ++ [diagnostic] }

/-- Note the name of a placeholder class. -/
def noteOpaque (state : LookupState) (name : String) : LookupState :=
  if name ∈ state.opaqueTypes then state
  else { state with opaqueTypes := state.opaqueTypes ++ [name] }

/-- The answer kept for an operation and a signature. -/
def answer? (state : LookupState) (operation signature : String) : Option Answer :=
  (state.answers.find? operation).bind (·.find? signature)

/-- Keep an answer. -/
def keep (state : LookupState) (operation signature : String) (answer : Answer) : LookupState :=
  let ofOperation := (state.answers.find? operation).getD {}
  { state with answers := state.answers.insert operation (ofOperation.insert signature answer) }

end LookupState

/-- A computation that looks templates up. -/
abbrev Lookup := StateM LookupState

namespace Lookup

/-- Report a diagnostic. -/
def report (kind : DiagnosticKind) (location : Location) (message : String) : Lookup Unit :=
  modify (·.report ⟨kind, location, message⟩)

/-- The Fortran name of the class or enum that a type is built on. If there is none, a placeholder
is named and reported. -/
def className (sources : Sources) (type : CxxType) (location : Location) : Lookup String := do
  match sources.fortranName? type with
  | some name => return name
  | none =>
    let placeholder := sources.placeholderClass type
    report .unknownClassType location
      ("\"" ++ type.signature ++ "\" is not a known class, using opaque type " ++ placeholder)
    modify (·.noteOpaque placeholder)
    return placeholder

/-- Replace the token for the class name in a text. It is `none` if the text has no such token. -/
def substituteClassName? (sources : Sources) (type : CxxType) (text : String)
    (location : Location) : Lookup (Option String) := do
  if Text.mentions text classToken then
    let name ← className sources type location
    return some (Text.substitute text [(classToken, name)])
  else return none

/-- Replace the token for the class name in a typemap. -/
def withClassName (sources : Sources) (type : CxxType) (typemap : Typemap) (location : Location) :
    Lookup Typemap := do
  match ← substituteClassName? sources type typemap.code location with
  | some code => return { typemap with code }
  | none => return typemap

/-- Answer a request from the store, and keep the answer. -/
def searchStore (sources : Sources) (request : Request) : Lookup (Option Typemap) := do
  let operation := request.mainOperation
  let signature := request.type.signature
  match sources.search? request.operations request.type, request.need with
  | some typemap, _ =>
    let typemap ← withClassName sources request.type typemap request.location
    modify (·.keep operation signature (.found typemap))
    return some typemap
  | none, .optional => return none
  | none, .required =>
    let placeholder : Typemap := { code := placeholderName request.type }
    report .missingTemplate request.location
      ("no \"" ++ operation ++ "\" typemap defined for \"" ++ signature ++ "\"")
    modify (·.keep operation signature (.placeholder placeholder))
    return some placeholder

/-- Answer a request. -/
def find (sources : Sources) (request : Request) : Lookup (Option Typemap) := do
  match request.attached? with
  | some typemap => return some (← withClassName sources request.type typemap request.location)
  | none =>
    match (← get).answer? request.mainOperation request.type.signature, request.need with
    | some (.found typemap), _ => return some typemap
    | some (.placeholder _), .optional => return none
    | some (.placeholder typemap), .required => return some typemap
    | none, _ => searchStore sources request

/-- The code that answers a request; nothing for an optional operation that is missed. -/
def code (sources : Sources) (request : Request) : Lookup String := do
  return ((← find sources request).map Typemap.code).getD ""

/-- The typemaps of a parameter together with the one found for an operation. -/
def attach (sources : Sources) (operation : String) (need : Need) (location : Location)
    (parameter : Parameter) : Lookup Attachments := do
  if parameter.typemaps.contains operation then return parameter.typemaps
  match ← find sources { operation, type := parameter.type, need, location } with
  | some typemap => return parameter.typemaps.insert operation typemap
  | none => return parameter.typemaps

/-- The name that stands for the class or enum a type is built on, without any history. -/
def classNameOf (sources : Sources) (type : CxxType) : String :=
  (sources.fortranName? type).getD (sources.placeholderClass type)

/-- A typemap with its token for the class name replaced, without any history. -/
def named (sources : Sources) (type : CxxType) (typemap : Typemap) : Typemap :=
  if Text.mentions typemap.code classToken then
    { typemap with
      code := Text.substitute typemap.code [(classToken, classNameOf sources type)] }
  else typemap

/-- The answer to a request without any history. -/
def answer? (sources : Sources) (request : Request) : Option Typemap :=
  match request.attached?, sources.search? request.operations request.type, request.need with
  | some typemap, _, _ => some (named sources request.type typemap)
  | none, some typemap, _ => some (named sources request.type typemap)
  | none, none, .optional => none
  | none, none, .required => some { code := placeholderName request.type }

end Lookup

end FortranBindings
