import FortranBindings.Declarations.Document
import FortranBindings.Files.Access
import FortranBindings.Generator
import FortranBindings.TypemapTable.Document

/-!
# Bindings from files to files

The declarations, the typemaps and the configuration are read from files, and the two sources of the
module are written to a directory. The sources are written also if some declarations were left out.
-/

namespace FortranBindings

/-- Why an input file is refused. There is no fault to tell if the file cannot be read as text. -/
inductive InputError
  | declarations (path : String) (fault : Option DeclarationsError)
  | typemaps (path : String) (fault : Option TypemapsError)
  deriving DecidableEq, Repr

namespace InputError

/-- What is reported for a refused file. -/
def message : InputError → String
  | declarations path _ => "Failed to read AST from \"" ++ path ++ "\""
  | typemaps path _ => "Failed to read typemaps from \"" ++ path ++ "\""

/-- What lies beneath a refused file, the outermost first. -/
def causes : InputError → List String
  | declarations _ (some fault) => fault.message :: fault.causes
  | typemaps _ (some fault) => fault.message :: fault.causes
  | declarations _ none | typemaps _ none => []

end InputError

/-- Why no bindings were written. -/
inductive BindError
  | input (error : InputError)
  | config (path : String)
  | generation (error : GenerateError)
  | output (path : String)
  deriving DecidableEq, Repr

namespace BindError

/-- What is reported when no bindings were written. -/
def message : BindError → String
  | input _ => "Error reading AST"
  | config path => "Failed to read config \"" ++ path ++ "\""
  | generation _ => "Error generating module"
  | output path => "Failed to write \"" ++ path ++ "\""

/-- What lies beneath the failure, the outermost first. -/
def causes : BindError → List String
  | input error => error.message :: error.causes
  | generation error => error.message :: error.causes
  | config _ | output _ => []

end BindError

section

variable {m : Type → Type} [Monad m] (files : FileAccess m)

/-- A result as a step that can fail, with its error wrapped. -/
def ofResult {α ε δ : Type} (wrap : ε → δ) (result : Except ε α) : ExceptT δ m α :=
  .mk (pure (result.mapError wrap))

/-- Read a file of declarations. -/
def readDeclarations (path : String) : ExceptT InputError m Declarations := do
  let some text ← files.read path | throw (.declarations path none)
  ofResult (.declarations path ∘ some) (Declarations.ofDocument (.ofText text))

/-- Read a file of typemaps. -/
def readTypemaps (path : String) : ExceptT InputError m TypemapTable := do
  let some text ← files.read path | throw (.typemaps path none)
  ofResult (.typemaps path ∘ some) (TypemapTable.ofDocument (.ofText text))

/-- The typemaps of the library, with those of a file laid over them if one is given. -/
def loadTypemaps (path : Option String) : ExceptT InputError m TypemapTable :=
  match path with
  | some path => return TypemapTable.fortran.overlay (← readTypemaps files path)
  | none => return TypemapTable.fortran

/-- The configuration in a file, or the usual one if no file is given. -/
def loadConfig (path : Option String) : ExceptT BindError m Config :=
  match path with
  | some path => do
    let some text ← files.read path | throw (.config path)
    ofResult (fun _ => .config path) (Config.ofDocument (.ofText text))
  | none => return {}

/-- Write a file. -/
def writeFile (path text : String) : ExceptT BindError m Unit := do
  unless ← files.write path text do throw (.output path)

/-- Write the sources of a module to a directory, which is made if it is missing. -/
def writeModule (directory : String) (module : GeneratedModule) : ExceptT BindError m Unit := do
  unless ← ExceptT.lift (makeDirectories files directory) do throw (.output directory)
  writeFile files (joinPath directory module.cxxFileName) module.cxxSource
  writeFile files (joinPath directory module.fortranFileName) module.fortranSource

/-- Generate a module and write its sources to a directory. -/
def bindTo (directory : String) (setup : Setup) : ExceptT BindError m GeneratedModule := do
  let module ← ofResult .generation (generate setup)
  writeModule files directory module
  return module

end

end FortranBindings
