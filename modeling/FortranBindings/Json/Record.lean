import FortranBindings.CxxType.Spelling
import FortranBindings.Dict
import FortranBindings.Json.Reader

/-!
# Records in JSON documents

A record is described by its fields in their declared order and by what each field does to the value
that is built. It is read from an object or from an array of its fields. Reading goes through the
document once in its own order, so that of two faults the first one is reported: a fault is either
that of a type spelling or of the document itself.

* In an object a known key may stand once, an unknown one is skipped, and when the object ends every
  required field must have been there.
* In an array the fields stand in their declared order. Those at the end may be missing if they are
  not required; no element may be left over.
-/

namespace FortranBindings

/-- Why a document is refused. -/
inductive DocumentError
  /-- The text is no JSON or does not have the form of what is read. -/
  | malformed
  /-- A text that should name a type does not. -/
  | spelling (error : CxxType.SpellingError)
  deriving DecidableEq, Repr

/-- What is reported for a refused document. -/
def DocumentError.message (_ : DocumentError) : String := "JSON error"

/-- The texts of what lies beneath a refused document. -/
def DocumentError.causes : DocumentError → List String
  | malformed => []
  | spelling error => [error.message]

namespace Json

/-- A reader of values. -/
abbrev Decoder (α : Type) := Json → Except DocumentError α

/-- Read a text. -/
def asString : Decoder String
  | string text => .ok text
  | _ => .error .malformed

/-- Read a truth value. -/
def asBool : Decoder Bool
  | bool b => .ok b
  | _ => .error .malformed

/-- Read an integer from `low` to `high`. -/
def asInteger (low high : Int) : Decoder Int
  | integer n => if low ≤ n ∧ n ≤ high then .ok n else .error .malformed
  | _ => .error .malformed

/-- Read a natural number of so many bits. -/
def asNatural (bits : Nat) : Decoder Nat
  | integer n => if 0 ≤ n ∧ n < Nat.pow 2 bits then .ok n.toNat else .error .malformed
  | _ => .error .malformed

/-- Read a value, or null for none. -/
def asOption {α : Type} (read : Decoder α) : Decoder (Option α)
  | null => .ok none
  | value => (read value).map some

/-- Read the elements of an array. -/
def asList {α : Type} (read : Decoder α) : Decoder (List α)
  | array elements => elements.mapM read
  | _ => .error .malformed

/-- Read the fields of an object as a dictionary; of several fields of one key the last counts. -/
def asDict {α : Type} (read : Decoder α) : Decoder (Dict α)
  | object fields =>
    fields.foldlM (fun dict field => (read field.2).map (dict.insert field.1)) Dict.empty
  | _ => .error .malformed

/-- Read the type that a text spells. -/
def asType : Decoder CxxType := fun value => do
  (CxxType.ofSpelling (← asString value)).mapError .spelling

/-- A field of a record of type `α`. -/
structure Field (α : Type) where
  key : String
  required : Bool := true
  /-- Read a value and put it into the record. -/
  set : Json → α → Except DocumentError α

/-- A field that is set from what a decoder reads. -/
def Field.of {α β : Type} (key : String) (required : Bool) (read : Decoder β) (put : β → α → α) :
    Field α where
  key := key
  required := required
  set value record := (read value).map (put · record)

/-- The description of a record. -/
structure Record (α : Type) where
  /-- The record before any field is read. -/
  initial : α
  /-- The fields in their declared order. -/
  fields : List (Field α)

namespace Record

variable {α : Type}

/-- A record while its object is read. -/
structure Partial (α : Type) where
  value : α
  /-- The known keys that were met. -/
  seen : List String := []
  /-- The other fields, in reverse. -/
  others : List (String × Json) := []

/-- Take one field of an object. `accept` says which values may stand under unknown keys. -/
def take (record : Record α) (accept : Json → Bool) (state : Partial α) (field : String × Json) :
    Except DocumentError (Partial α) :=
  match record.fields.find? (·.key = field.1) with
  | some known =>
    if field.1 ∈ state.seen then .error .malformed
    else do
      let value ← known.set field.2 state.value
      return { state with value, seen := field.1 :: state.seen }
  | none =>
    if accept field.2 then .ok { state with others := field :: state.others }
    else .error .malformed

/-- Read the fields of an object: the record and the fields it does not know. -/
def ofFields (record : Record α) (accept : Json → Bool) (fields : List (String × Json)) :
    Except DocumentError (α × List (String × Json)) := do
  let state ← fields.foldlM (record.take accept) { value := record.initial }
  if record.fields.all fun field => !field.required || state.seen.contains field.key then
    return (state.value, state.others.reverse)
  else throw .malformed

/-- Read the elements of an array as the fields in their declared order. -/
def ofElements : List (Field α) → List Json → α → Except DocumentError α
  | [], [], value => .ok value
  | [], _ :: _, _ => .error .malformed
  | fields, [], value => if fields.any (·.required) then .error .malformed else .ok value
  | field :: fields, element :: elements, value => do
    ofElements fields elements (← field.set element value)

/-- Read a record from an object or an array. -/
def read (record : Record α) : Decoder α
  | object fields => (record.ofFields isNamed fields).map (·.1)
  | array elements => ofElements record.fields elements record.initial
  | _ => .error .malformed

end Record

/-- Read a whole document. A fault of the text counts only if no other one lies in front of it. -/
def Document.decode {α : Type} (document : Document) (read : Decoder α) :
    Except DocumentError α :=
  match read document.root, document.complete with
  | .ok value, true => .ok value
  | .ok _, false => .error .malformed
  | .error error, _ => .error error

end Json

end FortranBindings
