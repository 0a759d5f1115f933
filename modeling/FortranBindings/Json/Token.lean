import FortranBindings.Json.Number

/-!
# Tokens of a JSON text

The characters of a JSON text are grouped into marks, strings, numbers and names. Where the
characters fit no token the list ends in `Token.malformed`: everything in front of that place can
still be read. `lex` keeps its place in a word as part of its state, so that it takes one step for
each character.
-/

namespace FortranBindings.Json

/-- A token of a JSON text. -/
inductive Token
  | openArray
  | closeArray
  | openObject
  | closeObject
  | comma
  | colon
  /-- A string, which has no text if half of a surrogate pair stands alone in it. -/
  | string (text : Option String)
  /-- Another value that is not made of others. -/
  | scalar (value : Json)
  /-- The text goes on with something that is no token. -/
  | malformed

/-- The value of a hexadecimal digit. -/
def hexValue? (c : Char) : Option Nat :=
  if '0' ≤ c ∧ c ≤ '9' then some (c.toNat - '0'.toNat)
  else if 'a' ≤ c ∧ c ≤ 'f' then some (c.toNat - 'a'.toNat + 10)
  else if 'A' ≤ c ∧ c ≤ 'F' then some (c.toNat - 'A'.toNat + 10)
  else none

/-- The code unit that four hexadecimal digits write. -/
def codeUnit? (a b c d : Char) : Option Nat := do
  return (((← hexValue? a) * 16 + (← hexValue? b)) * 16 + (← hexValue? c)) * 16 + (← hexValue? d)

/-- The character written by a letter behind a backslash. -/
def escapedChar? : Char → Option Char
  | '"' => some '"'
  | '\\' => some '\\'
  | '/' => some '/'
  | 'b' => some '\x08'
  | 'f' => some '\x0c'
  | 'n' => some '\n'
  | 'r' => some '\r'
  | 't' => some '\t'
  | _ => none

/-- A part of a string: a character, or the code unit that an escape of four digits writes. -/
inductive Piece
  | char (c : Char)
  | unit (code : Nat)

/-- The pieces of a string up to its closing quote, in reverse and in front of `seen`, and the text
behind it. -/
def scanString (seen : List Piece) : List Char → Option (List Piece × List Char)
  | '"' :: rest => some (seen, rest)
  | '\\' :: 'u' :: a :: b :: c :: d :: rest =>
    match codeUnit? a b c d with
    | some code => scanString (.unit code :: seen) rest
    | none => none
  | '\\' :: c :: rest =>
    match escapedChar? c with
    | some char => scanString (.char char :: seen) rest
    | none => none
  | c :: rest => if c < ' ' then none else scanString (.char c :: seen) rest
  | [] => none

/-- The first half of a surrogate pair. -/
def isHighSurrogate (code : Nat) : Bool := 0xD800 ≤ code && code < 0xDC00

/-- The second half of a surrogate pair. -/
def isLowSurrogate (code : Nat) : Bool := 0xDC00 ≤ code && code < 0xE000

/-- The characters that the pieces of a string make up, unless half of a surrogate pair stands
alone. -/
def joinPieces? : List Piece → Option (List Char)
  | [] => some []
  | .char c :: rest => (joinPieces? rest).map (c :: ·)
  | .unit high :: .unit low :: rest =>
    if isHighSurrogate high then
      if isLowSurrogate low then
        let char := Char.ofNat (0x10000 + (high - 0xD800) * 0x400 + (low - 0xDC00))
        (joinPieces? rest).map (char :: ·)
      else none
    else if isLowSurrogate high then none
    else (joinPieces? (.unit low :: rest)).map (Char.ofNat high :: ·)
  | .unit code :: rest =>
    if isHighSurrogate code || isLowSurrogate code then none
    else (joinPieces? rest).map (Char.ofNat code :: ·)

/-- A string token from behind its opening quote, and the text behind it. -/
def stringToken? (text : List Char) : Option (Token × List Char) :=
  (scanString [] text).map fun (pieces, rest) =>
    (.string ((joinPieces? pieces.reverse).map String.ofList), rest)

/-- A number token from behind its sign, and the text behind it. -/
def numberToken? (negative : Bool) (text : List Char) : Option (Token × List Char) :=
  (number? negative text).map fun (value, rest) => (.scalar value, rest)

/-- The whitespace of JSON. -/
def isSpace (c : Char) : Bool :=
  c == ' ' || c == '\t' || c == '\n' || c == '\r'

/-- The first token of a text that does not start with whitespace, and the text behind it. -/
def nextToken? : List Char → Option (Token × List Char)
  | '[' :: rest => some (.openArray, rest)
  | ']' :: rest => some (.closeArray, rest)
  | '{' :: rest => some (.openObject, rest)
  | '}' :: rest => some (.closeObject, rest)
  | ',' :: rest => some (.comma, rest)
  | ':' :: rest => some (.colon, rest)
  | 't' :: 'r' :: 'u' :: 'e' :: rest => some (.scalar (.bool true), rest)
  | 'f' :: 'a' :: 'l' :: 's' :: 'e' :: rest => some (.scalar (.bool false), rest)
  | 'n' :: 'u' :: 'l' :: 'l' :: rest => some (.scalar .null, rest)
  | '"' :: rest => stringToken? rest
  | '-' :: rest => numberToken? true rest
  | text => numberToken? false text

/-- The tokens of a text, in reverse and in front of `seen`. A token takes at least one character,
so that as many steps as there are characters are enough. -/
def lexFrom (seen : List Token) : Nat → List Char → List Token
  | 0, _ => seen
  | steps + 1, text =>
    match text.dropWhile isSpace with
    | [] => seen
    | c :: rest =>
      match nextToken? (c :: rest) with
      | some (token, rest) => lexFrom (token :: seen) steps rest
      | none => .malformed :: seen

/-- The tokens of a text. -/
def lex (text : String) : List Token :=
  (lexFrom [] (text.length + 1) text.toList).reverse

end FortranBindings.Json
