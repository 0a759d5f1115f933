import FortranBindings.Registry

/-!
# Overloads

Variants that share one public name, in the order they were declared. The groups are in the order
their names came up first. One collection serves the free functions of a module, and every class has
its own.
-/

namespace FortranBindings

/-- Groups of variants by their public name. -/
abbrev Overloads := Registry (List String)

namespace Overloads

/-- Add a variant to the group of a public name. -/
def record (overloads : Overloads) (publicName variant : String) : Overloads :=
  overloads.upsert publicName [] (· ++ [variant])

/-- The variants of a public name. -/
def variants? (overloads : Overloads) (publicName : String) : Option (List String) :=
  overloads.find? publicName

/-- The text that exports the groups of a module and maps each name to its variants. -/
def moduleInterfaces (overloads : Overloads) : String :=
  String.join (overloads.entries.map fun (name, variants) =>
    " public :: " ++ name ++ "\n interface " ++ name ++ "\n  module procedure " ++
      ", ".intercalate variants ++ "\n end interface\n")

/-- The text of the generic bindings of a derived type. -/
def genericBindings (overloads : Overloads) : String :=
  String.join (overloads.entries.map fun (name, variants) =>
    "  generic :: " ++ name ++ " => " ++ ", ".intercalate variants ++ "\n")

end Overloads

end FortranBindings
