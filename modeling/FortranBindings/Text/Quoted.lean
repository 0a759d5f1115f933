import FortranBindings.Text.Hidden

/-!
# Quoted texts

A text is shown in double quotes. Quotes, backslashes, tabs, line breaks and the null character are
written with a backslash in front; other characters that do not show are written by their code.
-/

namespace FortranBindings.Text

/-- The digits of a code in hexadecimal notation. -/
def hexadecimal (n : Nat) : List Char := Nat.toDigits 16 n

/-- A character as it stands between quotes. -/
def quotedChar (c : Char) : List Char :=
  match c with
  | '"' => ['\\', '"']
  | '\\' => ['\\', '\\']
  | '\t' => ['\\', 't']
  | '\n' => ['\\', 'n']
  | '\r' => ['\\', 'r']
  | '\x00' => ['\\', '0']
  | c => if isHidden c then ['\\', 'u', '\x7b'] ++ hexadecimal c.toNat ++ ['\x7d'] else [c]

/-- A text in quotes. -/
def quoted (text : String) : String :=
  "\"" ++ String.ofList (text.toList.flatMap quotedChar) ++ "\""

end FortranBindings.Text
