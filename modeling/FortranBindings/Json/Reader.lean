import FortranBindings.Json.Token

/-!
# Reading JSON texts

A JSON text is read token by token, with the arrays and objects that are open on a stack. The first
token that does not fit ends the reading: what was read up to there is kept, because a fault that
lies in front of that place is the one to report. A `Document` is what was read together with the
answer to whether the text was correct to its end.
-/

namespace FortranBindings.Json

/-- What was read of a text. -/
structure Document where
  root : Json
  /-- Was the text correct to its end? -/
  complete : Bool

namespace Reader

/-- An array or object that is not closed yet; its parts are in reverse. -/
inductive Frame
  | array (elements : List Json)
  | object (fields : List (String × Json))
  /-- An object whose next value belongs to `key`, if the key is a text. -/
  | pair (key : Option String) (fields : List (String × Json))

/-- What may come next. -/
inductive Place
  | value
  /-- A value or the end of an empty array. -/
  | firstElement
  /-- A key or the end of an empty object. -/
  | firstKey
  | key
  | colon (key : Option String)
  /-- A comma or the end of the innermost array or object. -/
  | separator

/-- How far reading has come. -/
inductive State
  /-- Inside of the frames, the innermost first, of which there are `depth`. -/
  | reading (frames : List Frame) (depth : Nat) (place : Place)
  /-- Behind the whole value. -/
  | finished (root : Json)
  /-- At a token that does not fit. -/
  | stopped (root : Json)

/-- A closed array or object, which is not kept if it lies too deep. -/
def closed (depth : Nat) (value : Json) : Json :=
  if maxDepth < depth then .unreadable else value

/-- The value of a frame that is closed as it is. -/
def Frame.value : Frame → Json
  | array elements => .array elements.reverse
  | object fields => .object fields.reverse
  | pair _ fields => .object fields.reverse

/-- Add a value to a frame that waits for one. -/
def Frame.add (value : Json) : Frame → Frame
  | array elements => array (value :: elements)
  | object fields => object fields
  | pair (some key) fields => object ((key, value) :: fields)
  | pair none fields => object (("", .nameless) :: fields)

/-- What was read when the innermost frames are closed as they are. -/
def closeAll (depth : Nat) : List Frame → Option Json → Json
  | [], value => value.getD .unreadable
  | frame :: frames, value =>
    let frame := value.elim frame frame.add
    closeAll (depth - 1) frames (some (closed depth frame.value))

/-- Put a whole value where it belongs. -/
def place (value : Json) : List Frame → Nat → State
  | [], _ => .finished value
  | frame :: frames, depth => .reading (frame.add value :: frames) depth .separator

/-- The value of a string. -/
def stringValue (text : Option String) : Json := text.elim .unreadable .string

/-- Take one token. -/
def step : State → Token → State
  | .reading frames depth .value, .string text => place (stringValue text) frames depth
  | .reading frames depth .firstElement, .string text => place (stringValue text) frames depth
  | .reading frames depth .value, .scalar v => place v frames depth
  | .reading frames depth .firstElement, .scalar v => place v frames depth
  | .reading frames depth .value, .openArray =>
    .reading (.array [] :: frames) (depth + 1) .firstElement
  | .reading frames depth .firstElement, .openArray =>
    .reading (.array [] :: frames) (depth + 1) .firstElement
  | .reading frames depth .value, .openObject =>
    .reading (.object [] :: frames) (depth + 1) .firstKey
  | .reading frames depth .firstElement, .openObject =>
    .reading (.object [] :: frames) (depth + 1) .firstKey
  | .reading (.array elements :: frames) depth .firstElement, .closeArray =>
    place (closed depth (Frame.array elements).value) frames (depth - 1)
  | .reading (.array elements :: frames) depth .separator, .closeArray =>
    place (closed depth (Frame.array elements).value) frames (depth - 1)
  | .reading (.array elements :: frames) depth .separator, .comma =>
    .reading (.array elements :: frames) depth .value
  | .reading (.object fields :: frames) depth .firstKey, .closeObject =>
    place (closed depth (Frame.object fields).value) frames (depth - 1)
  | .reading (.object fields :: frames) depth .separator, .closeObject =>
    place (closed depth (Frame.object fields).value) frames (depth - 1)
  | .reading (.object fields :: frames) depth .separator, .comma =>
    .reading (.object fields :: frames) depth .key
  | .reading frames depth .firstKey, .string key => .reading frames depth (.colon key)
  | .reading frames depth .key, .string key => .reading frames depth (.colon key)
  | .reading (.object fields :: frames) depth (.colon key), .colon =>
    .reading (.pair key fields :: frames) depth .value
  | .reading frames depth _, _ => .stopped (closeAll depth frames none)
  | .finished root, _ => .stopped root
  | .stopped root, _ => .stopped root

end Reader

/-- Read a text as far as it is correct. -/
def Document.ofText (text : String) : Document :=
  match (lex text).foldl Reader.step (.reading [] 0 .value) with
  | .finished root => ⟨root, true⟩
  | .stopped root => ⟨root, false⟩
  | .reading frames depth _ => ⟨Reader.closeAll depth frames none, false⟩

/-- A value that was not read from a text. -/
def Document.ofValue (value : Json) : Document := ⟨value, true⟩

end FortranBindings.Json
