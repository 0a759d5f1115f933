import FortranBindings.CommandLine.Options
import FortranBindings.Files.Binding

/-!
# Running a command

A command reads its files, writes the two sources of the module and reports its diagnostics. It
succeeds if every declaration was generated.
-/

namespace FortranBindings.CommandLine

/-- What a command leaves behind besides files. -/
structure Outcome where
  /-- Zero if the command succeeds. -/
  code : Nat
  /-- What is written to standard output. -/
  output : String := ""
  /-- What is written to standard error. -/
  errors : String := ""
  deriving DecidableEq, Repr

/-- The form of a command. -/
def synopsis : String := "USAGE:\n    fbl-gen [OPTIONS] <AST>\n\n"

/-- The options with what they do, in the order of their names. -/
def optionTexts : List (String × String) := [
  ("-c, --config <CONFIG>", "Bind config JSON file"),
  ("    --finalize", "Bind a final procedure to release objects going out of scope"),
  ("-h, --help", "Print help information"),
  ("-m, --module <MODULE>", "Name of the Fortran module, overriding the config and the AST"),
  ("    --no-proxy", "Only generate the flat bind(C) interface, without proxy types"),
  ("-o, --output-directory <OUTPUT_DIRECTORY>",
    "Directory the C++ and Fortran sources are written to [default: .]"),
  ("-t, --typemaps <TYPEMAPS>", "Typemap JSON file overlaid on the built-in Fortran library"),
  ("-v, --verbosity <VERBOSITY>",
    "Verbosity of the output [possible values: trace, debug, info, warn, error]")]

/-- What is told to those who ask for help. -/
def help : String :=
  "fbl-gen \n\n" ++ synopsis ++
    "ARGS:\n    <AST>    AST JSON file written by the front end\n\nOPTIONS:\n" ++
    "\n".intercalate (optionTexts.map fun (option, text) =>
      "    " ++ option ++ "\n            " ++ text ++ "\n")

/-- Why a command fails. -/
inductive Failure
  /-- The declarations cannot be read. -/
  | declarations (error : InputError)
  | bind (error : BindError)
  /-- Some declarations of the module were left out. -/
  | incomplete (moduleName : String)
  deriving DecidableEq, Repr

namespace Failure

/-- What is reported for a failed command. -/
def message : Failure → String
  | declarations error => error.message
  | bind error => error.message
  | incomplete moduleName => "failed to generate module " ++ moduleName

/-- What lies beneath the failure, the outermost first. -/
def causes : Failure → List String
  | declarations error => error.causes
  | bind error => error.causes
  | incomplete _ => []

/-- The outcome of a failed command. The text on standard error ends with the failure, after an
empty line followed by what lies beneath it. -/
def outcome (failure : Failure) (diagnostics : List Diagnostic) : Outcome where
  code := 1
  errors := String.join (diagnostics.map fun d => d.display ++ "\n") ++
    "Error: " ++ failure.message ++ "\n" ++
    (if failure.causes.isEmpty then ""
      else "\nCaused by:\n" ++ String.join (failure.causes.map fun text => "    " ++ text ++ "\n"))

end Failure

/-- The outcome when the sources of a module have been written. -/
def finished (directory : String) (module : GeneratedModule) : Outcome :=
  if module.hasErrors then (Failure.incomplete module.name).outcome module.diagnostics
  else
    { code := 0
      output := module.name ++ ": " ++ toString module.bindings.length ++
        " bindings written to " ++ directory ++ "\n"
      errors := String.join (module.diagnostics.map fun d => d.display ++ "\n") }

section

variable {m : Type → Type} [Monad m] (files : FileAccess m)

/-- Read the files of a command and write the sources. Of several faulty files the configuration is
reported first, then the declarations, then the typemaps. -/
def execute (declarations : String) (options : Options) : ExceptT Failure m GeneratedModule := do
  let config ← (loadConfig files options.config).adapt Failure.bind
  let decls ← (readDeclarations files declarations).adapt Failure.declarations
  let typemaps ← (loadTypemaps files options.typemaps).adapt (Failure.bind ∘ .input)
  let sources := { decls, store := typemaps.lookup }
  (bindTo files options.output { sources, config := options.configure config }).adapt Failure.bind

/-- Run a command. -/
def run (arguments : List String) : m Outcome := do
  match Request.ofArguments arguments with
  | .error error => return { code := 2, errors := "error: " ++ error.message ++ "\n\n" ++ synopsis }
  | .ok .help => return { code := 0, output := help }
  | .ok (.bind declarations options) =>
    match ← (execute files declarations options).run with
    | .ok module => return finished options.output module
    | .error failure => return failure.outcome []

end

end FortranBindings.CommandLine
