import FortranBindings.Decl.Location

/-!
# Errors of generation

Why nothing was generated for a declaration. A duplicate only skips its declaration; any other error
ends the run.
-/

namespace FortranBindings

/-- Why a declaration was not generated. -/
inductive GenerateError
  | duplicateSymbol (name : String) (location previous : Location)
  | duplicateClass (name : String) (location previous : Location)
  /-- A member was to be generated outside of a class. -/
  | memberOutsideClass (name : String)
  /-- The function at the top level failed for another reason. -/
  | failedFunction (name : String) (cause : GenerateError)
  /-- The class failed for the reason that one of its members did. -/
  | failedClass (name : String) (cause : GenerateError)
  deriving DecidableEq, Repr

namespace GenerateError

/-- What is reported for an error. -/
def message : GenerateError → String
  | duplicateSymbol name location previous =>
    "Symbol \"" ++ name ++ "\" at " ++ location.display ++ " was already defined at " ++
      previous.display
  | duplicateClass name location previous =>
    "Class \"" ++ name ++ "\" at " ++ location.display ++ " was already defined at " ++
      previous.display
  | memberOutsideClass name => "Member \"" ++ name ++ "\" was found outside of a class"
  | failedFunction name _ => "Failed to generate function \"" ++ name ++ "\""
  | failedClass name _ => "Failed to generate class \"" ++ name ++ "\""

/-- What is reported for the errors beneath an error, the outermost first. -/
def causes : GenerateError → List String
  | failedFunction _ cause | failedClass _ cause => cause.message :: cause.causes
  | _ => []

/-- Does the error skip only the declaration it is about? -/
def isSkip : GenerateError → Bool
  | duplicateSymbol .. | duplicateClass .. => true
  | _ => false

end GenerateError

end FortranBindings
