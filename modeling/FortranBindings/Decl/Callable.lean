import FortranBindings.Decl.Location
import FortranBindings.Decl.Typemap
import FortranBindings.Text.Identifier

/-!
# Callable declarations

A callable is what a bridge can be made for: a free function, a constructor, a destructor, a method
or an access to a field. All but free functions are members of a class. This module holds the
declarations and their document form; what a callable becomes inside of a class is in
`FortranBindings.Decl.Class`.
-/

namespace FortranBindings

open Json

/-- A parameter of a callable. -/
structure Parameter where
  /-- The declared name, empty for a parameter without one. -/
  name : String := ""
  type : CxxType
  /-- Typemaps that take precedence for this parameter. -/
  typemaps : Attachments := {}
  deriving DecidableEq

namespace Parameter

/-- The parameter as it appears in the text of a declaration. -/
def display (parameter : Parameter) : String :=
  parameter.name ++ ": " ++ parameter.type.signature

/-- The document form of a parameter. -/
def record : Record Parameter where
  initial := { type := .void }
  fields := [
    .of "name" false asString fun name p => { p with name },
    .of "type" true asType fun type p => { p with type },
    .of "typemaps" false Attachments.ofJson fun typemaps p => { p with typemaps }]

/-- Read a parameter. -/
def ofJson : Decoder Parameter := record.read

/-- The document of a parameter. Typemaps are left out if there are none. -/
def toJson (parameter : Parameter) : Json :=
  object ([("name", string parameter.name), ("type", string parameter.type.signature)] ++
    if parameter.typemaps.entries = [] then [] else [("typemaps", parameter.typemaps.toJson)])

end Parameter

/-- What an access to a field does. -/
inductive AccessorRole
  | get
  | set
  deriving DecidableEq, Repr

namespace AccessorRole

/-- The word for a role in documents and symbols. -/
def word : AccessorRole → String
  | get => "get"
  | set => "set"

/-- The role that a word stands for. -/
def ofWord? : String → Option AccessorRole
  | "get" => some get
  | "set" => some set
  | _ => none

/-- Read a role: its word, or an object with its word as the only key and null under it. -/
def ofJson : Decoder AccessorRole
  | string word => (ofWord? word).elim (.error .malformed) .ok
  | object [(word, null)] => (ofWord? word).elim (.error .malformed) .ok
  | _ => .error .malformed

/-- Read a role among the fields of a kind, where an empty object may stand in place of null. -/
def ofField : Decoder AccessorRole
  | object [(word, object [])] => ofJson (string word)
  | value => ofJson value

/-- The document of a role. -/
def toJson (role : AccessorRole) : Json := string role.word

end AccessorRole

/-- What sort of entity a callable is. -/
inductive CallableKind
  | freeFunction
  | constructor
  | destructor
  | method (isConst : Bool)
  | accessor (field : String) (role : AccessorRole)
  deriving DecidableEq, Repr

namespace CallableKind

/-- Can the entity be declared inside of a class only? -/
def isMember (kind : CallableKind) : Bool :=
  kind ≠ freeFunction

/-- Is the object an implicit first argument of the entity? -/
def hasSelf : CallableKind → Bool
  | destructor | method _ | accessor .. => true
  | freeFunction | constructor => false

/-- Does the implicit first argument point to a `const` object? -/
def selfIsConst : CallableKind → Bool
  | method isConst => isConst
  | accessor _ role => role = .get
  | _ => false

/-- The tags of the kinds in documents, in their order. -/
def tags : List String :=
  ["free_function", "constructor", "destructor", "method", "accessor"]

/-- The fields of an accessor in documents. -/
def accessorRecord : Record (String × AccessorRole) where
  initial := ("", .get)
  fields := [
    .of "field" true asString fun field a => (field, a.2),
    .of "role" true AccessorRole.ofField fun role a => (a.1, role)]

/-- The field of a method in documents. -/
def methodRecord : Record Bool where
  initial := false
  fields := [.of "is_const" false asBool fun isConst _ => isConst]

/-- Read a kind from its tag and the document of its fields. -/
def ofTag (tag : String) (fields : Json) : Except DocumentError CallableKind :=
  match tag with
  | "free_function" => .ok freeFunction
  | "constructor" => .ok constructor
  | "destructor" => .ok destructor
  | "method" => (methodRecord.read fields).map method
  | "accessor" => (accessorRecord.read fields).map fun a => accessor a.1 a.2
  | _ => .error .malformed

/-- The tag among some fields, if it stands there once, and the other fields. -/
def splitTag (fields : List (String × Json)) :
    Except DocumentError (Json × List (String × Json)) :=
  match fields.partition (·.1 = "kind") with
  | ([(_, tag)], others) => .ok (tag, others)
  | _ => .error .malformed

/-- Read a kind from fields that stand among others. The tag is a word or its position. -/
def ofFields (fields : List (String × Json)) : Except DocumentError CallableKind := do
  let (tag, others) ← splitTag fields
  match tag with
  | string tag => ofTag tag (object others)
  | integer (.ofNat n) =>
    match tags[n]? with
    | some tag => ofTag tag (object others)
    | none => throw .malformed
  | _ => throw .malformed

/-- Read a kind that stands alone: an object, or an array of the tag and the fields in order. -/
def ofJson : Decoder CallableKind
  | object fields => do
    let (tag, others) ← splitTag fields
    if readableFields others then ofTag (← asString tag) (object others)
    else throw .malformed
  | array (string tag :: others) =>
    if readableElements others ∧ (others = [] ∨ tag = "method" ∨ tag = "accessor") then
      ofTag tag (array others)
    else .error .malformed
  | _ => .error .malformed

/-- The fields of a kind in documents, the tag first. -/
def toFields : CallableKind → List (String × Json)
  | freeFunction => [("kind", string "free_function")]
  | constructor => [("kind", string "constructor")]
  | destructor => [("kind", string "destructor")]
  | method isConst => [("kind", string "method"), ("is_const", bool isConst)]
  | accessor field role =>
    [("kind", string "accessor"), ("field", string field), ("role", role.toJson)]

/-- The document of a kind. -/
def toJson (kind : CallableKind) : Json := object kind.toFields

end CallableKind

/-- What was asked for a single declaration. -/
structure Features where
  /-- The result is a new object that the caller owns. -/
  newObject : Bool := false
  /-- Fortran code at the start of the proxy routine. -/
  prepend : Option String := none
  /-- Fortran code at the end of the proxy routine. -/
  append : Option String := none
  /-- C++ code around the action, which `$action` stands for. -/
  exception : Option String := none
  deriving DecidableEq, Repr

namespace Features

/-- The document form of features. -/
def record : Record Features where
  initial := {}
  fields := [
    .of "new_object" false asBool fun newObject f => { f with newObject },
    .of "prepend" false (asOption asString) fun prepend f => { f with prepend },
    .of "append" false (asOption asString) fun append f => { f with append },
    .of "exception" false (asOption asString) fun exception f => { f with exception }]

/-- Read features. -/
def ofJson : Decoder Features := record.read

/-- The document of features. -/
def toJson (features : Features) : Json :=
  object [("new_object", bool features.newObject), ("prepend", optional features.prepend),
    ("append", optional features.append), ("exception", optional features.exception)]

end Features

/-- A declaration that a bridge can be made for. -/
structure Callable where
  /-- The C++ name, qualified for free functions. -/
  name : String
  /-- The symbol that the bridge is named after, if it is given. -/
  symbol : Option String := none
  /-- The name to be used in place of the C++ name. -/
  rename : Option String := none
  kind : CallableKind
  /-- The declared parameters, without an implicit object. -/
  parameters : List Parameter := []
  result : CxxType := .void
  /-- What tells this one of several overloaded declarations apart. -/
  overload : Option String := none
  features : Features := {}
  /-- The C++ code that invokes the entity, if it is given. -/
  action : Option String := none
  location : Location := {}
  deriving DecidableEq

namespace Callable

/-- The declaration as it appears in messages. -/
def display (callable : Callable) : String :=
  callable.name ++ "(" ++ ", ".intercalate (callable.parameters.map Parameter.display) ++ ") -> " ++
    callable.result.signature

/-- Is this one of several overloaded declarations? -/
def isOverloaded (callable : Callable) : Bool := callable.overload.isSome

theorem overload_eq_none {callable : Callable} (h : callable.isOverloaded = false) :
    callable.overload = none :=
  Option.isNone_iff_eq_none.1 (Option.isSome_eq_false_iff.1 h)

/-- The name that the entity is made public under. -/
def publicName (callable : Callable) : String :=
  Text.publicName callable.rename callable.name

/-- The document form of a callable apart from its kind. -/
def record : Record Callable where
  initial := { name := "", kind := .freeFunction }
  fields := [
    .of "name" true asString fun name c => { c with name },
    .of "sym_name" false (asOption asString) fun symbol c => { c with symbol },
    .of "rename" false (asOption asString) fun rename c => { c with rename },
    .of "parameters" false (asList Parameter.ofJson) fun parameters c => { c with parameters },
    .of "result" false asType fun result c => { c with result },
    .of "overload" false (asOption asString) fun overload c => { c with overload },
    .of "features" false Features.ofJson fun features c => { c with features },
    .of "action" false (asOption asString) fun action c => { c with action },
    .of "location" false Location.ofJson fun location c => { c with location }]

/-- Read a callable. The fields of its kind stand among its own; all of them must be readable. -/
def ofJson : Decoder Callable
  | object fields => do
    let (callable, others) ← record.ofFields readable fields
    return { callable with kind := (← CallableKind.ofFields others) }
  | _ => .error .malformed

/-- The document of a callable. -/
def toJson (callable : Callable) : Json :=
  object ([("name", string callable.name), ("sym_name", optional callable.symbol),
    ("rename", optional callable.rename)] ++ callable.kind.toFields ++
    [("parameters", array (callable.parameters.map Parameter.toJson)),
      ("result", string callable.result.signature), ("overload", optional callable.overload),
      ("features", callable.features.toJson), ("action", optional callable.action),
      ("location", callable.location.toJson)])

end Callable

end FortranBindings
