import FortranBindings.Declarations.Basic
import FortranBindings.Registry.Indexed

/-!
# Declarations in tables

The declarations of a library as they are kept for lookups: the classes and the enums stand in
registries of their own, and the list of what was declared has their numbers only.
`DeclarationTables.item?` is the declaration that an item of this list stands for.
-/

namespace FortranBindings

/-- A declaration at the top level, where a class or an enum is told by its number. -/
inductive NumberedItem
  | function (callable : Callable)
  | cls (id : Nat)
  | enumeration (id : Nat)
  deriving DecidableEq

/-- The declarations of a library with tables of its classes and enums. -/
structure DeclarationTables where
  name : String
  /-- The headers to include. -/
  includes : List String := []
  /-- C++ code for the end of the bridge source. -/
  init : List String := []
  classes : IndexedRegistry Class := {}
  enumerations : IndexedRegistry Enumeration := {}
  /-- The types that names are typedefs of. -/
  typedefs : Dict CxxType := {}
  items : List NumberedItem := []
  deriving DecidableEq

namespace DeclarationTables

/-- Declare a class. Its number comes with the tables. -/
def addClass (tables : DeclarationTables) (cls : Class) : Nat × DeclarationTables :=
  (tables.classes.size,
    { tables with
      classes := tables.classes.insert cls.name cls
      items := tables.items ++ [.cls tables.classes.size] })

/-- Declare an enum. Its number comes with the tables. -/
def addEnumeration (tables : DeclarationTables) (enumeration : Enumeration) :
    Nat × DeclarationTables :=
  let key := Declarations.enumerationKey tables.enumerations.size enumeration
  (tables.enumerations.size,
    { tables with
      enumerations := tables.enumerations.insert key enumeration
      items := tables.items ++ [.enumeration tables.enumerations.size] })

/-- Declare a function. -/
def addFunction (tables : DeclarationTables) (callable : Callable) : DeclarationTables :=
  { tables with items := tables.items ++ [.function callable] }

/-- Declare a typedef, in place of any other one of its name. -/
def addTypedef (tables : DeclarationTables) (typedef : Typedef) : DeclarationTables :=
  { tables with typedefs := tables.typedefs.insert typedef.name typedef.underlying }

/-- The declaration that an item stands for. -/
def item? (tables : DeclarationTables) : NumberedItem → Option Item
  | .function callable => some (.function callable)
  | .cls id => (tables.classes.at? id).map .cls
  | .enumeration id => (tables.enumerations.at? id).map .enumeration

/-- Declare an item of a library. -/
def addItem (tables : DeclarationTables) : Item → DeclarationTables
  | .function callable => tables.addFunction callable
  | .cls cls => (tables.addClass cls).2
  | .enumeration enumeration => (tables.addEnumeration enumeration).2

/-- The declarations of a library, put into tables one after the other. -/
def ofDeclarations (decls : Declarations) : DeclarationTables :=
  decls.items.foldl addItem
    { name := decls.name
      includes := decls.includes
      init := decls.init
      typedefs := decls.typedefs }

end DeclarationTables

end FortranBindings
