import FortranBindings.Decl.Callable

/-!
# Classes and their members

A class has a C++ name, members and possibly base classes, which are not bound. A member that takes
an object gets a pointer to it as an implicit first parameter `self`, and a constructor without a
declared result returns a pointer to its class.
-/

namespace FortranBindings

open Json

/-- A C++ class. -/
structure Class where
  /-- The qualified C++ name. -/
  name : String
  rename : Option String := none
  bases : List String := []
  members : List Callable := []
  location : Location := {}
  deriving DecidableEq

namespace Class

/-- The name of the derived type made for the class. -/
def publicName (cls : Class) : String :=
  Text.publicName cls.rename cls.name

/-- The type of a pointer to an object of the class. -/
def handle (isConst : Bool) (cls : Class) : CxxType :=
  .pointer ((CxxType.named cls.name).withConst isConst)

/-- The document form of a class. -/
def record : Record Class where
  initial := { name := "" }
  fields := [
    .of "name" true asString fun name c => { c with name },
    .of "rename" false (asOption asString) fun rename c => { c with rename },
    .of "bases" false (asList asString) fun bases c => { c with bases },
    .of "members" false (asList Callable.ofJson) fun members c => { c with members },
    .of "location" false Location.ofJson fun location c => { c with location }]

/-- Read a class. -/
def ofJson : Decoder Class := record.read

/-- The document of a class. -/
def toJson (cls : Class) : Json :=
  object [("name", string cls.name), ("rename", optional cls.rename), ("bases", strings cls.bases),
    ("members", array (cls.members.map Callable.toJson)), ("location", cls.location.toJson)]

end Class

namespace Callable

/-- The symbol that the bridge of a callable is named after, such as `new_Foo` or `Foo_x_get`. -/
def symbolIn (owner : Option Class) (callable : Callable) : String :=
  match callable.symbol with
  | some symbol => symbol
  | none =>
    let cls := owner.elim "" Class.publicName
    match callable.kind with
    | .freeFunction => callable.publicName
    | .constructor => "new_" ++ cls
    | .destructor => "delete_" ++ cls
    | .method _ => cls ++ "_" ++ callable.publicName
    | .accessor field role => cls ++ "_" ++ field ++ "_" ++ role.word

/-- The type that the bridge returns. -/
def resultIn (owner : Option Class) (callable : Callable) : CxxType :=
  match callable.kind, owner with
  | .constructor, some cls => if callable.result.isVoid then cls.handle false else callable.result
  | _, _ => callable.result

/-- The parameters of the bridge, with the implicit object in front. -/
def parametersIn (owner : Option Class) (callable : Callable) : List Parameter :=
  match owner with
  | some cls =>
    if callable.kind.hasSelf then
      { name := "self", type := cls.handle callable.kind.selfIsConst } :: callable.parameters
    else callable.parameters
  | none => callable.parameters

end Callable

end FortranBindings
