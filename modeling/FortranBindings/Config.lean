import FortranBindings.Json.Record
import FortranBindings.Json.Writer

/-!
# Configuration

The choices that a user has for the generated module, and their document form. A document may leave
out any of them. A written configuration is read back as it was.
-/

namespace FortranBindings

open Json

/-- The choices for a generated module. -/
structure Config where
  /-- The name of the Fortran module; the name of the declarations if it is empty. -/
  moduleName : String := ""
  /-- Are derived types and proxy routines made? -/
  proxyClasses : Bool := true
  /-- Does a proxy release its object when it goes out of scope? -/
  finalizers : Bool := false
  /-- What the names of bridges start with. -/
  wrapperPrefix : String := "swigc_"
  /-- What the names of proxy routines of members and overloaded functions start with. -/
  proxyPrefix : String := "swigf_"
  /-- Other modules to use. -/
  imports : List String := []
  deriving DecidableEq, Repr

namespace Config

/-- The document form of a configuration. -/
def record : Record Config where
  initial := {}
  fields := [
    .of "module_name" false asString fun moduleName c => { c with moduleName },
    .of "proxy_classes" false asBool fun proxyClasses c => { c with proxyClasses },
    .of "finalizers" false asBool fun finalizers c => { c with finalizers },
    .of "wrapper_prefix" false asString fun wrapperPrefix c => { c with wrapperPrefix },
    .of "proxy_prefix" false asString fun proxyPrefix c => { c with proxyPrefix },
    .of "imports" false (asList asString) fun imports c => { c with imports }]

/-- Read a configuration. -/
def ofJson : Decoder Config := record.read

/-- Read a configuration from a document. -/
def ofDocument (document : Document) : Except DocumentError Config := document.decode ofJson

/-- The document of a configuration. -/
def toJson (config : Config) : Json :=
  object [("module_name", string config.moduleName), ("proxy_classes", bool config.proxyClasses),
    ("finalizers", bool config.finalizers), ("wrapper_prefix", string config.wrapperPrefix),
    ("proxy_prefix", string config.proxyPrefix), ("imports", strings config.imports)]

/-- The text of a configuration file. -/
def toText (config : Config) : String := config.toJson.pretty

end Config

end FortranBindings
