import FortranBindings.Json.Basic

/-!
# Writing JSON texts

Values are written either on one line without spaces (`compact`) or with a line for every element
and field (`pretty`). Strings are written with the shortest escapes: quotes, backslashes and control
characters only, all other characters as themselves.
-/

namespace FortranBindings.Json

/-- A hexadecimal digit. -/
def hexDigit (n : Nat) : Char :=
  if n < 10 then Char.ofNat ('0'.toNat + n) else Char.ofNat ('a'.toNat + (n - 10))

/-- A character of a string as it is written. -/
def escaped (c : Char) : List Char :=
  match c with
  | '"' => ['\\', '"']
  | '\\' => ['\\', '\\']
  | '\x08' => ['\\', 'b']
  | '\x0c' => ['\\', 'f']
  | '\n' => ['\\', 'n']
  | '\r' => ['\\', 'r']
  | '\t' => ['\\', 't']
  | c =>
    if c < ' ' then ['\\', 'u', '0', '0', hexDigit (c.toNat / 16), hexDigit (c.toNat % 16)]
    else [c]

/-- A string in quotes. -/
def quoted (text : String) : String :=
  "\"" ++ String.ofList (text.toList.flatMap escaped) ++ "\""

mutual

/-- A value on one line without spaces. -/
def compact : Json → String
  | null => "null"
  | bool b => if b then "true" else "false"
  | integer n => toString n
  | real spelling => spelling
  | string text => quoted text
  | array elements => "[" ++ compactElements elements ++ "]"
  | object fields => "\x7b" ++ compactFields fields ++ "\x7d"
  | unreadable | nameless => "null"

/-- Elements with commas between them. -/
def compactElements : List Json → String
  | [] => ""
  | [value] => value.compact
  | value :: rest => value.compact ++ "," ++ compactElements rest

/-- Fields with commas between them. -/
def compactFields : List (String × Json) → String
  | [] => ""
  | [(key, value)] => quoted key ++ ":" ++ value.compact
  | (key, value) :: rest => quoted key ++ ":" ++ value.compact ++ "," ++ compactFields rest

end

mutual

/-- A value over several lines; the lines behind the first start with `indent`. -/
def prettyAt (indent : String) : Json → String
  | array [] => "[]"
  | array elements => "[" ++ prettyElements (indent ++ "  ") elements ++ indent ++ "]"
  | object [] => "\x7b\x7d"
  | object fields => "\x7b" ++ prettyFields (indent ++ "  ") fields ++ indent ++ "\x7d"
  | null => "null"
  | bool b => if b then "true" else "false"
  | integer n => toString n
  | real spelling => spelling
  | string text => quoted text
  | unreadable | nameless => "null"

/-- Elements on lines of their own. -/
def prettyElements (indent : String) : List Json → String
  | [] => ""
  | [value] => indent ++ value.prettyAt indent
  | value :: rest => indent ++ value.prettyAt indent ++ "," ++ prettyElements indent rest

/-- Fields on lines of their own. -/
def prettyFields (indent : String) : List (String × Json) → String
  | [] => ""
  | [(key, value)] => indent ++ quoted key ++ ": " ++ value.prettyAt indent
  | (key, value) :: rest =>
    indent ++ quoted key ++ ": " ++ value.prettyAt indent ++ "," ++ prettyFields indent rest

end

/-- A value with a line for every element and field, indented by two blanks for each level. -/
def pretty (value : Json) : String := value.prettyAt "\n"

end FortranBindings.Json
