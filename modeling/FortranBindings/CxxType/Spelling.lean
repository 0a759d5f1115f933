import FortranBindings.CxxType.Basic
import FortranBindings.CxxType.Token

/-!
# Reading type spellings

A spelling such as `const std::vector<double> &` is read into the type it names. The words up to
the first declarator are the specifiers: `const` and `enum` act, `volatile`, `struct` and `class`
are dropped, and the others spell the base. After that each `*`, `&` and `&&` puts a declarator
around what was read; `const` behind a pointer makes that pointer `const`.
-/

namespace FortranBindings.CxxType

/-- Why a spelling names no type. -/
inductive SpellingFault
  | lexical (fault : LexicalFault)
  | noBase
  /-- The keyword `enum` does not stand before a single name. -/
  | enumWithoutName
  /-- The words are neither a builtin nor a single name. -/
  | unknownBase
  | nameAfterDeclarator
  deriving DecidableEq, Repr

/-- A spelling that names no type. -/
structure SpellingError where
  spelling : String
  fault : SpellingFault
  deriving DecidableEq, Repr

/-- The first byte of a character in UTF-8, as a character with that number. -/
def leadingByte (c : Char) : Char :=
  Char.ofNat ((String.utf8EncodeChar c).headD 0).toNat

/-- The reason a spelling is refused, in words. A character is named by its first byte. -/
def SpellingFault.message : SpellingFault → String
  | lexical .unbalancedBrackets => "unbalanced template brackets"
  | lexical (.unexpected c) => "unexpected character '" ++ (leadingByte c).toString ++ "'"
  | noBase => "no base type"
  | enumWithoutName => "expected a single name after \"enum\""
  | unknownBase => "could not make sense of the base type"
  | nameAfterDeclarator => "unexpected name after declarator"

/-- What is reported for a refused spelling. -/
def SpellingError.message (error : SpellingError) : String :=
  "Failed to parse type \"" ++ error.spelling ++ "\": " ++ error.fault.message

/-- The text of a word. -/
def Token.word? : Token → Option String
  | word text => some text
  | _ => none

/-- Words before the declarators that are no part of the base. -/
def keywords : List String :=
  ["const", "enum", "volatile", "struct", "class"]

/-- The base that some words spell, with or without `enum` among them. -/
def Base.ofWords (isEnum : Bool) : List String → Except SpellingFault Base
  | [] => .error .noBase
  | words =>
    if isEnum then
      match words with
      | [name] => .ok (enumeration name)
      | _ => .error .enumWithoutName
    else
      match Builtin.ofWords? words, words with
      | some kind, _ => .ok (builtin kind)
      | none, [name] => .ok (named name)
      | none, _ => .error .unknownBase

/-- The type that the words before the declarators name. -/
def ofSpecifiers (words : List String) : Except SpellingFault CxxType := do
  let root ← Base.ofWords ("enum" ∈ words) (words.filter (· ∉ keywords))
  return base ("const" ∈ words) root

/-- Put a declarator around a type, or qualify the declarator around it. -/
def declare (type : CxxType) : Token → Except SpellingFault CxxType
  | .star => .ok (declared false .pointer type)
  | .amp => .ok (declared false .lvalueReference type)
  | .ampAmp => .ok (declared false .rvalueReference type)
  | .word "const" => .ok (if type.isPointer then type.withConst true else type)
  | .word "volatile" => .ok type
  | .word _ => .error .nameAfterDeclarator

/-- The type that some tokens name. -/
def ofTokens (tokens : List Token) : Except SpellingFault CxxType := do
  let isWord (token : Token) := token.word?.isSome
  let type ← ofSpecifiers ((tokens.takeWhile isWord).filterMap Token.word?)
  (tokens.dropWhile isWord).foldlM declare type

/-- The type that some characters name. -/
def ofChars (text : List Char) : Except SpellingFault CxxType := do
  let tokens ← (Token.scan text).mapError .lexical
  ofTokens tokens

/-- The type that a spelling names. -/
def ofSpelling (spelling : String) : Except SpellingError CxxType :=
  (ofChars spelling.toList).mapError fun fault => ⟨spelling, fault⟩

end FortranBindings.CxxType
