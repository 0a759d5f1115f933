import FortranBindings.Decl.Location

/-!
# Diagnostics

What went wrong while a module was generated. Errors mean that a declaration was left out; warnings
that a placeholder stands in for something or that something was ignored.
-/

namespace FortranBindings

/-- What a diagnostic is about. -/
inductive DiagnosticKind
  /-- No typemap exists for an operation that is needed; a placeholder took its place. -/
  | missingTemplate
  /-- The name of a class was needed for a type that is none; a placeholder took its place. -/
  | unknownClassType
  | duplicateSymbol
  | duplicateClass
  /-- Something that is ignored, such as base classes. -/
  | unsupportedFeature
  deriving DecidableEq, Repr

namespace DiagnosticKind

/-- The kinds in the order they are counted in. -/
def all : List DiagnosticKind :=
  [missingTemplate, unknownClassType, duplicateSymbol, duplicateClass, unsupportedFeature]

/-- The name of a kind in messages. -/
def name : DiagnosticKind → String
  | missingTemplate => "missing-template"
  | unknownClassType => "unknown-class-type"
  | duplicateSymbol => "duplicate-symbol"
  | duplicateClass => "duplicate-class"
  | unsupportedFeature => "unsupported-feature"

/-- Does a diagnostic of this kind mean that the run has failed? -/
def isError : DiagnosticKind → Bool
  | duplicateSymbol | duplicateClass => true
  | _ => false

end DiagnosticKind

/-- Something that went wrong at a place. -/
structure Diagnostic where
  kind : DiagnosticKind
  location : Location
  message : String
  deriving DecidableEq, Repr

namespace Diagnostic

/-- The line that is printed for a diagnostic. -/
def display (diagnostic : Diagnostic) : String :=
  diagnostic.location.display ++ ": " ++ (if diagnostic.kind.isError then "error" else "warning") ++
    " [" ++ diagnostic.kind.name ++ "]: " ++ diagnostic.message

/-- How many diagnostics are of a kind. -/
def count (kind : DiagnosticKind) (diagnostics : List Diagnostic) : Nat :=
  diagnostics.countP (·.kind = kind)

/-- Does a diagnostic mean that the run has failed? -/
def anyError (diagnostics : List Diagnostic) : Bool :=
  diagnostics.any (·.kind.isError)

end Diagnostic

end FortranBindings
