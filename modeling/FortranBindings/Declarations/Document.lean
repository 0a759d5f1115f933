import FortranBindings.Declarations.Basic

/-!
# Documents of declarations

The declarations of a library are read from a JSON document. Only free functions may stand at the
top level of a document; this is checked once all of it was read.
-/

namespace FortranBindings

open Json

/-- Why a document of declarations is refused. -/
inductive DeclarationsError
  | document (error : DocumentError)
  /-- A member of a class stands at the top level. -/
  | misplacedMember (name : String)
  deriving DecidableEq, Repr

/-- What is reported for a member at the top level. -/
def misplacedMemberMessage (name : String) : String :=
  "Invalid item \"" ++ name ++ "\": top-level functions must have kind \"free_function\""

/-- What is reported for refused declarations. -/
def DeclarationsError.message : DeclarationsError → String
  | document error => error.message
  | misplacedMember name => misplacedMemberMessage name

/-- The texts of what lies beneath refused declarations. -/
def DeclarationsError.causes : DeclarationsError → List String
  | document error => error.causes
  | misplacedMember _ => []

namespace Item

/-- Read what a tag says that an item declares. -/
def ofTag (tag : String) (value : Json) : Except DocumentError Item :=
  match tag with
  | "class" => (Class.ofJson value).map cls
  | "enum" => (Enumeration.ofJson value).map enumeration
  | "function" => (Callable.ofJson value).map function
  | _ => .error .malformed

/-- Read an item: an object whose only key is the tag. -/
def ofJson : Decoder Item
  | object ((tag, value) :: others) => do
    let item ← ofTag tag value
    if others.isEmpty then return item else throw .malformed
  | _ => .error .malformed

end Item

/-- A document of declarations as it is written. -/
structure DeclarationsDocument where
  name : String := ""
  includes : List String := []
  init : List String := []
  typedefs : List Typedef := []
  items : List Item := []

namespace DeclarationsDocument

/-- The document form of declarations. -/
def record : Record DeclarationsDocument where
  initial := {}
  fields := [
    .of "name" true asString fun name d => { d with name },
    .of "includes" false (asList asString) fun includes d => { d with includes },
    .of "init" false (asList asString) fun init d => { d with init },
    .of "typedefs" false (asList Typedef.ofJson) fun typedefs d => { d with typedefs },
    .of "items" false (asList Item.ofJson) fun items d => { d with items }]

/-- The declarations that a document holds. -/
def toDeclarations (document : DeclarationsDocument) : Declarations where
  name := document.name
  includes := document.includes
  init := document.init
  typedefs := Dict.ofList (document.typedefs.map fun t => (t.name, t.underlying))
  items := document.items

/-- The first function at the top level that is not free. -/
def misplacedMember? (document : DeclarationsDocument) : Option Callable :=
  (document.items.filterMap Item.function?).find? (·.kind.isMember)

end DeclarationsDocument

/-- Read the declarations of a library. -/
def Declarations.ofDocument (document : Document) : Except DeclarationsError Declarations := do
  let read ← (document.decode DeclarationsDocument.record.read).mapError .document
  match read.misplacedMember? with
  | some callable => throw (.misplacedMember callable.name)
  | none => return read.toDeclarations

end FortranBindings
