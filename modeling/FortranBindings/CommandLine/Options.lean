import FortranBindings.Config

/-!
# Command-line options

A command names one file of declarations and may set options. An option that takes a value is
written `--name value`, `--name=value`, `-n value`, `-n=value` or `-nvalue`; of several values the
last one counts. A value that follows its option must not look like an option itself. An option may
be left without a value if it is named again with one, and if help is asked for. Behind `--` nothing
is an option.
-/

namespace FortranBindings.CommandLine

/-- How much is to be told about the work. -/
inductive Verbosity
  | trace | debug | info | warn | error
  deriving DecidableEq, Repr

/-- The verbosity with a name. -/
def Verbosity.ofName? : String → Option Verbosity
  | "trace" => some trace
  | "debug" => some debug
  | "info" => some info
  | "warn" => some warn
  | "error" => some error
  | _ => none

/-- What a command asks for. -/
structure Options where
  /-- The file of declarations. -/
  declarations : Option String := none
  /-- A file of typemaps that are laid over those of the library. -/
  typemaps : Option String := none
  /-- The directory that the sources are written to. -/
  output : String := "."
  /-- A file with the configuration. -/
  config : Option String := none
  /-- The name of the module, in place of the configured one. -/
  moduleName : Option String := none
  /-- Are proxies left out? -/
  noProxy : Bool := false
  /-- Are finalizers made? -/
  finalize : Bool := false
  verbosity : Option Verbosity := none
  deriving DecidableEq, Repr

/-- A configuration with the choices of the command in place of its own. -/
def Options.configure (options : Options) (config : Config) : Config :=
  { config with
    moduleName := options.moduleName.getD config.moduleName
    proxyClasses := config.proxyClasses && !options.noProxy
    finalizers := config.finalizers || options.finalize }

/-- Why a command is refused. -/
inductive UsageError
  | unknownArgument (argument : String)
  | missingValue (option : String)
  | invalidValue (option value : String)
  /-- A value was given to an option that takes none. -/
  | unexpectedValue (option : String)
  | missingDeclarations
  deriving DecidableEq, Repr

/-- What is reported for a refused command. -/
def UsageError.message : UsageError → String
  | unknownArgument argument => "unexpected argument \"" ++ argument ++ "\""
  | missingValue option => "a value is required for \"" ++ option ++ "\""
  | invalidValue option value => "invalid value \"" ++ value ++ "\" for \"" ++ option ++ "\""
  | unexpectedValue option => "no value is allowed for \"" ++ option ++ "\""
  | missingDeclarations => "a file of declarations is required"

/-- An option that takes a value. -/
inductive ValueOption
  | typemaps | output | config | moduleName | verbosity
  deriving DecidableEq, Repr

/-- An option without a value. -/
inductive Flag
  | noProxy | finalize | help
  deriving DecidableEq, Repr

/-- An option. -/
inductive Switch
  | valued (option : ValueOption)
  | flag (flag : Flag)
  deriving DecidableEq, Repr

/-- The option with a long name. -/
def Switch.ofLong? : String → Option Switch
  | "typemaps" => some (.valued .typemaps)
  | "output-directory" => some (.valued .output)
  | "config" => some (.valued .config)
  | "module" => some (.valued .moduleName)
  | "verbosity" => some (.valued .verbosity)
  | "no-proxy" => some (.flag .noProxy)
  | "finalize" => some (.flag .finalize)
  | "help" => some (.flag .help)
  | _ => none

/-- The option with a letter. -/
def Switch.ofLetter? : Char → Option Switch
  | 't' => some (.valued .typemaps)
  | 'o' => some (.valued .output)
  | 'c' => some (.valued .config)
  | 'm' => some (.valued .moduleName)
  | 'v' => some (.valued .verbosity)
  | 'h' => some (.flag .help)
  | _ => none

/-- The long name of an option with a value. -/
def ValueOption.name : ValueOption → String
  | typemaps => "--typemaps"
  | output => "--output-directory"
  | config => "--config"
  | moduleName => "--module"
  | verbosity => "--verbosity"

/-- Set an option. Paths must not be empty; a module name may be. -/
def Options.set (options : Options) (option : ValueOption) (value : String) :
    Except UsageError Options :=
  let path (put : Options) : Except UsageError Options :=
    if value.isEmpty then .error (.invalidValue option.name value) else .ok put
  match option with
  | .typemaps => path { options with typemaps := some value }
  | .output => path { options with output := value }
  | .config => path { options with config := some value }
  | .moduleName => .ok { options with moduleName := some value }
  | .verbosity =>
    match Verbosity.ofName? value with
    | some verbosity => .ok { options with verbosity := some verbosity }
    | none => .error (.invalidValue option.name value)

/-- Set an option that takes no value. -/
def Options.raise (options : Options) : Flag → Options
  | .noProxy => { options with noProxy := true }
  | .finalize => { options with finalize := true }
  | .help => options

/-- Take a file of declarations; there is only one. -/
def Options.name (options : Options) (path : String) : Except UsageError Options :=
  match options.declarations with
  | some _ => .error (.unknownArgument path)
  | none =>
    if path.isEmpty then .error (.invalidValue "AST" path)
    else .ok { options with declarations := some path }

/-- An argument taken apart: the option it names, if it does, and the value written behind it. -/
inductive Argument
  | plain
  /-- The end of all options. -/
  | separator
  | switch (switch : Switch) (value : Option String)
  | unknown
  deriving DecidableEq, Repr

/-- Take an argument apart. A lone `-` is no option. -/
def Argument.ofString (argument : String) : Argument :=
  match argument.toList with
  | ['-', '-'] => separator
  | '-' :: '-' :: rest =>
    let name := rest.takeWhile (· ≠ '=')
    let value := (rest.dropWhile (· ≠ '=')).tail?.map String.ofList
    match Switch.ofLong? (String.ofList name) with
    | some found => switch found value
    | none => unknown
  | '-' :: letter :: rest =>
    let value :=
      match rest with
      | [] => none
      | '=' :: value => some (String.ofList value)
      | value => some (String.ofList value)
    match Switch.ofLetter? letter with
    | some (.flag flag) => switch (.flag flag) none
    | some found => switch found value
    | none => unknown
  | _ => plain

/-- What is to be done. -/
inductive Request
  | help
  | bind (declarations : String) (options : Options)
  deriving DecidableEq, Repr

/-- The part of a command that has been read. -/
structure Draft where
  options : Options := {}
  /-- The options that were named without a value and not with one since then. -/
  lacking : List ValueOption := []
  deriving DecidableEq, Repr

namespace Draft

/-- Take a file of declarations. -/
def name (draft : Draft) (path : String) : Except UsageError Draft := do
  return { draft with options := ← draft.options.name path }

/-- Set an option. -/
def set (draft : Draft) (option : ValueOption) (value : String) : Except UsageError Draft := do
  return {
    options := ← draft.options.set option value
    lacking := draft.lacking.filter (· ≠ option) }

/-- Set an option that takes no value. -/
def raise (draft : Draft) (flag : Flag) : Draft :=
  { draft with options := draft.options.raise flag }

/-- Leave an option without a value. -/
def leave (draft : Draft) (option : ValueOption) : Draft :=
  { draft with lacking := option :: draft.lacking }

/-- The request when all arguments have been read. -/
def request (draft : Draft) : Except UsageError Request :=
  match draft.lacking, draft.options.declarations with
  | option :: _, _ => .error (.missingValue option.name)
  | [], some declarations => .ok (.bind declarations draft.options)
  | [], none => .error .missingDeclarations

/-- Read the remaining arguments of a command. -/
def take (draft : Draft) : List String → Except UsageError Request
  | [] => draft.request
  | argument :: rest =>
    match Argument.ofString argument with
    | .plain => do (← draft.name argument).take rest
    | .separator => do (← rest.foldlM name draft).request
    | .unknown => .error (.unknownArgument argument)
    | .switch (.flag _) (some _) => .error (.unexpectedValue argument)
    | .switch (.flag .help) none => .ok .help
    | .switch (.flag flag) none => (draft.raise flag).take rest
    | .switch (.valued option) (some value) => do (← draft.set option value).take rest
    | .switch (.valued option) none =>
      match rest with
      | value :: others =>
        if Argument.ofString value = .plain then do (← draft.set option value).take others
        else (draft.leave option).take (value :: others)
      | [] => (draft.leave option).request

end Draft

/-- Read the arguments of a command. -/
def Request.ofArguments (arguments : List String) : Except UsageError Request :=
  Draft.take {} arguments

end FortranBindings.CommandLine
