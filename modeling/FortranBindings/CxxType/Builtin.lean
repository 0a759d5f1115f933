/-!
# Builtin C++ types

The fundamental types of C++ and the words that spell them. A builtin may be spelled in several
ways (`unsigned`, `unsigned int`, `int unsigned`); `Builtin.spelling` is the one used in output.
-/

namespace FortranBindings

/-- The fundamental types of C++. -/
inductive Builtin
  | void
  | bool
  | char
  | signedChar
  | unsignedChar
  | short
  | unsignedShort
  | int
  | unsignedInt
  | long
  | unsignedLong
  | longLong
  | unsignedLongLong
  | float
  | double
  | longDouble
  | sizeT
  deriving DecidableEq, Repr

namespace Builtin

/-- The words a builtin is written with. -/
def spelling : Builtin → String
  | void => "void"
  | bool => "bool"
  | char => "char"
  | signedChar => "signed char"
  | unsignedChar => "unsigned char"
  | short => "short"
  | unsignedShort => "unsigned short"
  | int => "int"
  | unsignedInt => "unsigned int"
  | long => "long"
  | unsignedLong => "unsigned long"
  | longLong => "long long"
  | unsignedLongLong => "unsigned long long"
  | float => "float"
  | double => "double"
  | longDouble => "long double"
  | sizeT => "size_t"

/-- Every builtin, once. -/
def all : List Builtin :=
  [void, bool, char, signedChar, unsignedChar, short, unsignedShort, int, unsignedInt, long,
    unsignedLong, longLong, unsignedLongLong, float, double, longDouble, sizeT]

/-- The builtin named by a word that can stand alone and of which a spelling has at most one. -/
def ofCoreWord? : String → Option Builtin
  | "void" => some void
  | "bool" => some bool
  | "char" => some char
  | "float" => some float
  | "double" => some double
  | "size_t" => some sizeT
  | "std::size_t" => some sizeT
  | _ => none

/-- The words that give the sign or the length of a type. -/
def modifierWords : List String :=
  ["unsigned", "signed", "long", "short", "int"]

/-- Can the word be part of the spelling of a builtin? -/
def isWord (word : String) : Bool :=
  word ∈ modifierWords || (ofCoreWord? word).isSome

/-- A core type under the sign and length words around it. -/
def ofCore (words : List String) : Builtin → Builtin
  | double => if words.count "long" = 1 then longDouble else double
  | char =>
    if "unsigned" ∈ words then unsignedChar
    else if "signed" ∈ words then signedChar
    else char
  | core => core

/-- The integer type that sign and length words spell without a core word. -/
def ofModifiers? (words : List String) : Option Builtin :=
  if "short" ∈ words then
    some (if "unsigned" ∈ words then unsignedShort else short)
  else if 2 ≤ words.count "long" then
    some (if "unsigned" ∈ words then unsignedLongLong else longLong)
  else if words.count "long" = 1 then
    some (if "unsigned" ∈ words then unsignedLong else long)
  else if "unsigned" ∈ words then some unsignedInt
  else if "int" ∈ words ∨ "signed" ∈ words then some int
  else none

/-- The builtin spelled by some words, in any order. `int` and core words may occur once. How often
`long` occurs is not bounded: a counter of 32 bits would count the same up to `2 ^ 31 - 1` times. -/
def ofWords? (words : List String) : Option Builtin :=
  if words.all isWord ∧ words.count "int" ≤ 1 then
    match words.filterMap ofCoreWord? with
    | [] => ofModifiers? words
    | [core] => some (ofCore words core)
    | _ => none
  else none

end Builtin

end FortranBindings
