/-!
# JSON documents

A JSON document is a tree that keeps the order and the repetition of its keys, because a reader that
goes through a document once notices both. Numbers are told apart by their spelling: an integer is
one without sign of zero, fraction or exponent. A value that can be skipped but not read (half of a
surrogate pair in a string, a number too large for any float, nesting beyond `maxDepth`) is
`unreadable`. An object that can be skipped but not read, because half of a surrogate pair stands in
a key, has a `nameless` value in that field, under the empty key.
-/

namespace FortranBindings

/-- A JSON value. -/
inductive Json
  | null
  | bool (value : Bool)
  | integer (value : Int)
  /-- A number with a fraction, an exponent or a negative zero, as it is spelled. -/
  | real (spelling : String)
  | string (text : String)
  | array (elements : List Json)
  | object (fields : List (String × Json))
  /-- A value that is correct text and has no meaning. -/
  | unreadable
  /-- The value of a field whose key is correct text and has no meaning. -/
  | nameless
  deriving Inhabited

namespace Json

/-- Arrays and objects nested more deeply than this are not read. -/
def maxDepth : Nat := 127

mutual

/-- Has every part of the value a meaning? -/
def readable : Json → Bool
  | array elements => readableElements elements
  | object fields => readableFields fields
  | unreadable | nameless => false
  | _ => true

/-- Has every part of every element a meaning? -/
def readableElements : List Json → Bool
  | [] => true
  | value :: rest => value.readable && readableElements rest

/-- Has every part of every field a meaning? -/
def readableFields : List (String × Json) → Bool
  | [] => true
  | (_, value) :: rest => value.readable && readableFields rest

end

/-- Has the key of the value's field a meaning? -/
def isNamed : Json → Bool
  | nameless => false
  | _ => true

/-- An array of texts. -/
def strings (texts : List String) : Json := array (texts.map string)

/-- A text, or null in place of a missing one. -/
def optional : Option String → Json
  | some text => string text
  | none => null

/-- A natural number. -/
def natural (n : Nat) : Json := integer n

/-- The value of the last field with a key, if the value is an object that has one. -/
def field? (value : Json) (key : String) : Option Json :=
  match value with
  | object fields => fields.reverse.lookup key
  | _ => none

end Json

end FortranBindings
