import FortranBindings.Bridge.Make
import FortranBindings.ModuleSource
import FortranBindings.Proxy.Make
import FortranBindings.Symbols

/-!
# Generating a module

The declarations are gone through once, in order. Each callable gets a bridge and, unless proxies
are switched off, a proxy; a class is opened, its members are generated, and it is closed. A
declaration whose name is taken is reported and left out. What was generated before stays as it is,
whatever happens later: a computation that fails hands on the state it has reached.
-/

namespace FortranBindings

/-- What a module is generated from. -/
structure Setup where
  sources : Sources
  config : Config

/-- The name of the generated module. -/
def Setup.moduleName (setup : Setup) : String :=
  if setup.config.moduleName.isEmpty then setup.sources.decls.name else setup.config.moduleName

/-- A module that is being generated. -/
structure GeneratorState where
  lookups : LookupState := {}
  /-- The names of the wrappers of callables that are not overloaded. -/
  functionSymbols : Symbols := {}
  /-- The names of derived types. -/
  classSymbols : Symbols := {}
  parts : ModuleParts := {}
  bindings : List Binding := []
  deriving DecidableEq

/-- A step of generation. Also a failed step changes the state. -/
abbrev Generate := ExceptT GenerateError (StateM GeneratorState)

namespace Generate

/-- Look templates up as a part of a step. -/
def ofLookup {α : Type} (lookup : Lookup α) : Generate α := do
  let state ← get
  let (value, lookups) := lookup.run state.lookups
  set { state with lookups }
  return value

/-- Look templates up as a part of a step that can fail. -/
def ofFailingLookup {α : Type} (lookup : ExceptT GenerateError Lookup α) : Generate α := do
  liftExcept (← ofLookup lookup.run)

/-- Add something to the parts of the module. -/
def addParts (add : ModuleParts → ModuleParts) : Generate Unit :=
  modify fun state => { state with parts := add state.parts }

/-- Report a diagnostic. -/
def report (kind : DiagnosticKind) (location : Location) (message : String) : Generate Unit :=
  ofLookup (Lookup.report kind location message)

/-- The name of the wrapper of a callable. -/
def wrapperName (setup : Setup) (callable : Callable) (owner : Option Class) : String :=
  setup.config.wrapperPrefix ++ callable.symbolIn owner ++ callable.overload.getD ""

/-- Take the name of a wrapper, which may be taken once. -/
def takeSymbol (name : String) (location : Location) : Generate Unit := do
  match (← get).functionSymbols.register name location with
  | .ok functionSymbols => modify fun state => { state with functionSymbols }
  | .error previous =>
    report .duplicateSymbol location
      ("\"" ++ name ++ "\" is already defined at " ++ previous.display)
    throw (.duplicateSymbol name location previous)

/-- Make the bridge of a callable. It is not part of the module yet. -/
def bridge (setup : Setup) (callable : Callable) (owner : Option Class) : Generate Bridge := do
  let name := wrapperName setup callable owner
  if !callable.isOverloaded then takeSymbol name callable.location
  ofFailingLookup (Bridge.make setup.sources callable owner name)

/-- Bind a proxy where it belongs: in the open class, among overloaded functions or by itself. -/
def bindProxy (callable : Callable) (mode : ProxyMode) (name : String) :
    Option OpenClass → Generate (Option OpenClass)
  | some opened =>
    match callable.overload with
    | some overload =>
      return some (opened.bindOverload (callable.bindingName mode)
        (callable.bindingBase mode ++ overload) name)
    | none => return some (opened.bind ⟨false, callable.bindingName mode, name⟩)
  | none => do
    if callable.isOverloaded then
      addParts fun p => { p with overloads := p.overloads.record callable.publicName name }
    else addParts fun p => { p with publics := p.publics ++ [[name]] }
    return none

/-- Make the proxy of a callable from its bridge and bind it. The routine is not part of the module
yet. -/
def proxy (setup : Setup) (callable : Callable) (mode : ProxyMode) (bridge : Bridge)
    (opened : Option OpenClass) : Generate (Proxy × Option OpenClass) := do
  let made ← ofLookup (Proxy.make setup.sources setup.config callable mode bridge
    (opened.map fun o => (o.cls, o.name)))
  let opened ← bindProxy callable mode made.routine.name opened
  return (made, opened)

/-- Add the routine that releases the object of an open class when a variable goes out of scope. -/
def finalizer (setup : Setup) (opened : OpenClass) (bridge : Bridge) : Generate OpenClass := do
  let routine ← ofLookup
    (Proxy.makeFinalizer setup.sources setup.config opened.cls opened.name bridge)
  addParts fun p => { p with routines := p.routines ++ [routine] }
  return { opened with finalizer := some routine.name }

/-- Add the proxy of a callable to the module, and a finalizer if it is asked for. -/
def addProxy (setup : Setup) (callable : Callable) (bridge : Bridge) (opened : Option OpenClass) :
    Generate (String × Option OpenClass) := do
  let mode := ProxyMode.ofKind callable.kind
  let (made, opened) ← proxy setup callable mode bridge opened
  addParts fun p => { p with routines := p.routines ++ [made.routine] }
  match opened with
  | some o =>
    if mode = .destructor ∧ setup.config.finalizers then
      return (made.routine.name, some (← finalizer setup o bridge))
    else return (made.routine.name, opened)
  | none => return (made.routine.name, none)

/-- Make the bridge of a callable accessible: through a proxy, or by itself if proxies are switched
off. The name of the proxy is given back. -/
def expose (setup : Setup) (callable : Callable) (bridge : Bridge) (opened : Option OpenClass) :
    Generate (Option String × Option OpenClass) := do
  if setup.config.proxyClasses then
    let (name, opened) ← addProxy setup callable bridge opened
    return (some name, opened)
  else
    addParts fun p => { p with publics := p.publics ++ [[bridge.name]] }
    return (none, opened)

/-- Generate a callable, as a member of the open class if there is one. -/
def function (setup : Setup) (callable : Callable) (opened : Option OpenClass) :
    Generate (Option OpenClass) := do
  let owner := opened.map OpenClass.cls
  if callable.kind.isMember ∧ owner.isNone then throw (.memberOutsideClass callable.name)
  let bridge ← bridge setup callable owner
  addParts fun p => { p with
    wrappers := p.wrappers ++ [bridge.wrapper]
    interfaces := p.interfaces ++ [bridge.interface] }
  let (proxy, opened) ← expose setup callable bridge opened
  modify fun state => { state with
    bindings := state.bindings ++
      [{ name := callable.name, className := owner.map Class.publicName, wrapper := bridge.name,
         proxy }] }
  return opened

/-- Open a class. Its derived type must have a name of its own. -/
def openClass (cls : Class) : Generate OpenClass := do
  let name := cls.publicName
  match (← get).classSymbols.register name cls.location with
  | .error previous =>
    report .duplicateClass cls.location
      ("class \"" ++ name ++ "\" is already defined at " ++ previous.display)
    throw (.duplicateClass name cls.location previous)
  | .ok classSymbols =>
    modify fun state => { state with classSymbols }
    if cls.bases ≠ [] then
      report .unsupportedFeature cls.location
        ("base classes of \"" ++ cls.name ++ "\" are ignored: " ++ ", ".intercalate cls.bases)
    return { cls, name }

/-- Look up the lines that declare the data of a derived type. -/
def dataLines (setup : Setup) (className : String) (location : Location) :
    Generate (List String) := do
  let code ← ofLookup (Lookup.code setup.sources
    { operation := "fdata", type := .named className, need := .required, location })
  return Text.codeLines code

/-- Close a class: add its derived type to the module and make it public. -/
def closeClass (setup : Setup) (opened : OpenClass) : Generate Unit := do
  if setup.config.proxyClasses then
    let data ← dataLines setup opened.cls.name opened.cls.location
    addParts fun p => { p with
      types := p.types ++ [.derived opened data]
      publics := p.publics ++ [[opened.name]] }

/-- Run a step, and take `fallback` if it only skips its declaration. Another error is passed on as
`wrap` has it. -/
def orSkip {α : Type} (step : Generate α) (fallback : α) (wrap : GenerateError → GenerateError) :
    Generate α :=
  tryCatch step fun error => if error.isSkip then return fallback else throw (wrap error)

/-- Generate the members of a class one after the other. Members whose names are taken are left
out. -/
def members (setup : Setup) (cls : Class) : List Callable → OpenClass → Generate OpenClass
  | [], opened => return opened
  | callable :: rest, opened => do
    let next ← orSkip (function setup callable (some opened)) (some opened)
      (.failedClass cls.name)
    members setup cls rest (next.getD opened)

/-- Generate a class with all of its members. -/
def cls (setup : Setup) (cls : Class) : Generate Unit := do
  let opened ← openClass cls
  closeClass setup (← members setup cls cls.members opened)

/-- Generate an enum. -/
def enumeration (enumeration : Enumeration) : Generate Unit := do
  let marker := enumeration.marker?.toList.map fun name => (name, (-1 : Int))
  let enumerators := marker ++ enumeration.variants
  addParts fun p => { p with
    types := p.types ++ [.enumeration enumerators]
    publics := if enumerators = [] then p.publics else p.publics ++ [enumerators.map (·.1)] }

/-- Generate an item. -/
def item (setup : Setup) : Item → Generate Unit
  | .function callable =>
    discard <| orSkip (function setup callable none) none (.failedFunction callable.name)
  | .cls c => orSkip (cls setup c) () id
  | .enumeration e => enumeration e

/-- Generate all items in order. -/
def all (setup : Setup) : Generate Unit :=
  setup.sources.decls.items.forM (item setup)

end Generate

/-- A finished module. -/
structure GeneratedModule where
  name : String
  cxxSource : String
  fortranSource : String
  diagnostics : List Diagnostic
  bindings : List Binding

namespace GeneratedModule

/-- Was a declaration left out? -/
def hasErrors (module : GeneratedModule) : Bool := Diagnostic.anyError module.diagnostics

/-- The name of the file for the C++ source. -/
def cxxFileName (module : GeneratedModule) : String := module.name ++ "_wrap.cxx"

/-- The name of the file for the Fortran source. -/
def fortranFileName (module : GeneratedModule) : String := module.name ++ ".f90"

end GeneratedModule

namespace Generate

/-- Add a shell for every class that was used but is not known. -/
def shells (setup : Setup) : List String → Generate Unit
  | [] => return ()
  | name :: rest => do
    let data ← dataLines setup name {}
    addParts fun p => { p with types := p.types ++ [.shell name data] }
    shells setup rest

/-- Add what belongs to the whole module and write its sources. -/
def finish (setup : Setup) : Generate GeneratedModule := do
  shells setup (← get).lookups.opaqueTypes
  let state ← get
  let name := setup.moduleName
  return {
    name
    cxxSource := state.parts.cxxSource setup.sources.decls
    fortranSource := state.parts.fortranSource setup.config name
    diagnostics := state.lookups.diagnostics
    bindings := state.bindings }

end Generate

/-- Generate the module for some declarations. -/
def generate (setup : Setup) : Except GenerateError GeneratedModule :=
  ((Generate.all setup *> Generate.finish setup).run.run {}).1

end FortranBindings
