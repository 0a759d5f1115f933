import FortranBindings.Json.Record

/-!
# Typemaps

A typemap is a template of code for one operation on one type. A typemap for the operation `in` can
say that it takes no argument from the caller.
-/

namespace FortranBindings

/-- A template of code. -/
structure Typemap where
  code : String
  /-- How many arguments of the caller the code uses up, if that is said. -/
  numInputs : Option Nat := none
  deriving DecidableEq, Inhabited, Repr

namespace Typemap

/-- Does the typemap use no argument of the caller? -/
def isZeroInput (typemap : Typemap) : Bool :=
  typemap.numInputs = some 0

open Json

/-- The object form of a typemap. -/
def record : Record Typemap where
  initial := { code := "" }
  fields := [
    .of "code" true asString fun code t => { t with code },
    .of "numinputs" false (asOption (asNatural 64)) fun numInputs t => { t with numInputs }]

/-- Read a typemap from its code or from an object. All of the object must be readable. -/
def ofJson : Decoder Typemap
  | string code => .ok { code }
  | object fields =>
    if readableFields fields then (record.ofFields (fun _ => true) fields).map (·.1)
    else .error .malformed
  | _ => .error .malformed

/-- The document of a typemap. The number of inputs is left out if it is not said. -/
def toJson (typemap : Typemap) : Json :=
  object (("code", string typemap.code) ::
    (typemap.numInputs.map fun n => ("numinputs", natural n)).toList)

end Typemap

/-- Typemaps attached to one parameter, by their operations. -/
abbrev Attachments := Dict Typemap

namespace Attachments

/-- Read attachments. -/
def ofJson : Json.Decoder Attachments := Json.asDict Typemap.ofJson

/-- The document of attachments. -/
def toJson (attachments : Attachments) : Json :=
  .object (attachments.entries.map fun entry => (entry.1, entry.2.toJson))

/-- Does the parameter take no argument from the caller? -/
def isZeroInput (attachments : Attachments) : Bool :=
  ((attachments.find? "in").map Typemap.isZeroInput).getD false

end Attachments

end FortranBindings
