import FortranBindings.Decl.Class
import FortranBindings.Decl.Enumeration

/-!
# Declarations of a library

What is known about a C++ library: its functions, classes and enums in the order they were declared,
and its typedefs by name. Classes and enums are numbered in their order. Where several classes or
enums have one name, the last one answers to it.
-/

namespace FortranBindings

/-- A declaration at the top level. -/
inductive Item
  | function (callable : Callable)
  | cls (cls : Class)
  | enumeration (enumeration : Enumeration)
  deriving DecidableEq

namespace Item

/-- The class that an item declares. -/
def class? : Item → Option Class
  | cls c => some c
  | _ => none

/-- The enum that an item declares. -/
def enumeration? : Item → Option Enumeration
  | enumeration e => some e
  | _ => none

/-- The function that an item declares. -/
def function? : Item → Option Callable
  | function f => some f
  | _ => none

end Item

/-- The declarations of a library. -/
structure Declarations where
  name : String
  /-- The headers to include. -/
  includes : List String := []
  /-- C++ code for the end of the bridge source. -/
  init : List String := []
  /-- The types that names are typedefs of. -/
  typedefs : Dict CxxType := {}
  items : List Item := []
  deriving DecidableEq

/-- What a lookup of a declaration can fail with. -/
inductive LookupError
  | classNotFound (name : String)
  | enumNotFound (name : String)
  | functionNotFound (name : String)
  | multipleMatches
  deriving DecidableEq, Repr

/-- What is reported for a failed lookup. -/
def LookupError.message : LookupError → String
  | classNotFound name => "Could not find class \"" ++ name ++ "\" in AST"
  | enumNotFound name => "Could not find enum \"" ++ name ++ "\" in AST"
  | functionNotFound name => "Could not find function \"" ++ name ++ "\" in AST"
  | multipleMatches => "Multiple matches for the given name were found"

namespace Declarations

/-- The classes in order; the position of a class is its number. -/
def classes (decls : Declarations) : List Class := decls.items.filterMap Item.class?

/-- The enums in order; the position of an enum is its number. -/
def enumerations (decls : Declarations) : List Enumeration :=
  decls.items.filterMap Item.enumeration?

/-- The functions at the top level. -/
def functions (decls : Declarations) : List Callable := decls.items.filterMap Item.function?

/-- A short description of the declarations. -/
def summary (decls : Declarations) : String :=
  "AST(" ++ decls.name ++ ": " ++ toString decls.classes.length ++ " classes, " ++
    toString decls.enumerations.length ++ " enums, " ++ toString decls.typedefs.size ++
    " typedefs, " ++ toString decls.items.length ++ " items)"

/-- Declare a class. -/
def addClass (decls : Declarations) (cls : Class) : Declarations :=
  { decls with items := decls.items ++ [.cls cls] }

/-- Declare an enum. -/
def addEnumeration (decls : Declarations) (enumeration : Enumeration) : Declarations :=
  { decls with items := decls.items ++ [.enumeration enumeration] }

/-- Declare a function. -/
def addFunction (decls : Declarations) (callable : Callable) : Declarations :=
  { decls with items := decls.items ++ [.function callable] }

/-- Declare a typedef, in place of any other one of its name. -/
def addTypedef (decls : Declarations) (typedef : Typedef) : Declarations :=
  { decls with typedefs := decls.typedefs.insert typedef.name typedef.underlying }

/-- The name that an enum answers to, given the number of enums before it. -/
def enumerationKey (number : Nat) (enumeration : Enumeration) : String :=
  if enumeration.isAnonymous then "<anonymous enum " ++ toString number ++ ">"
  else enumeration.name

/-- The enums in order, each with its number and the name it answers to. -/
def keyedEnumerations (decls : Declarations) : List (Nat × String × Enumeration) :=
  decls.enumerations.zipIdx.map fun (e, number) => (number, enumerationKey number e, e)

/-- The class that a name stands for: the last one of exactly that name. -/
def getClass? (decls : Declarations) (name : String) : Option Class :=
  decls.classes.findRev? (·.name = name)

/-- The enum that a name stands for, with its number: the last one that answers to it. -/
def getEnumeration? (decls : Declarations) (name : String) : Option (Nat × Enumeration) :=
  (decls.keyedEnumerations.findRev? (·.2.1 = name)).map fun entry => (entry.1, entry.2.2)

/-- The typedef of a name. -/
def getTypedef? (decls : Declarations) (name : String) : Option Typedef :=
  (decls.typedefs.find? name).map fun underlying => { name, underlying }

/-- Does the name end in `::` and then `query`? -/
def matchesPartially (query name : String) : Bool :=
  ("::" ++ query).toList.isSuffixOf name.toList

/-- Find a class by its name, or by the end of its name behind a `::` if only one class matches in
this way. The number of the class comes with it. -/
def findClass (decls : Declarations) (name : String) : Except LookupError (Nat × Class) :=
  let numbered := decls.classes.zipIdx
  match numbered.find? (·.1.name = name) with
  | some (cls, number) => .ok (number, cls)
  | none =>
    match numbered.filter fun entry => matchesPartially name entry.1.name with
    | [] => .error (.classNotFound name)
    | [(cls, number)] => .ok (number, cls)
    | _ => .error .multipleMatches

/-- Find an enum by its name. The number of the enum comes with it. -/
def findEnumeration (decls : Declarations) (name : String) :
    Except LookupError (Nat × Enumeration) :=
  (decls.getEnumeration? name).elim (.error (.enumNotFound name)) .ok

/-- Find the first function of a name. -/
def findFunction (decls : Declarations) (name : String) : Except LookupError Callable :=
  (decls.functions.find? (·.name = name)).elim (.error (.functionNotFound name)) .ok

end Declarations

end FortranBindings
