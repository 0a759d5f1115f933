import FortranBindings.Text.Code

/-!
# Writing code line by line

Code is written to a text by going through its lines one after the other. A line is written with an
indentation in front of it and without the blanks at its end, and a line that is blank is passed
over. A line ends with a line feed, which may have a carriage return in front of it, and the last
line need not be ended.

`written` is what writing some code adds to a text.
-/

namespace FortranBindings.Text

/-- The lines of a text together with what ends them. -/
def splitLines : List Char → List (List Char)
  | [] => []
  | c :: rest =>
    if c = '\n' then [c] :: splitLines rest
    else
      match splitLines rest with
      | [] => [[c]]
      | line :: others => (c :: line) :: others

/-- A line without what ends it. A carriage return that no line feed follows belongs to the line. -/
def withoutLineEnd : List Char → List Char
  | [] => []
  | ['\n'] => []
  | ['\r', '\n'] => []
  | c :: rest => c :: withoutLineEnd rest

/-- The lines of a text. -/
def linesOf (text : String) : List String :=
  (splitLines text.toList).map fun line => String.ofList (withoutLineEnd line)

/-- Write a line of code behind what was written. -/
def writeLine (indent out line : String) : String :=
  let code := withoutTrailingBlanks line
  if code.isEmpty then out else out ++ (indent ++ code ++ "\n")

/-- Write code behind what was written. -/
def writeCode (out code indent : String) : String :=
  (linesOf code).foldl (writeLine indent) out

/-- What is added where code is written. -/
def written (code indent : String) : String :=
  writeCode "" code indent

end FortranBindings.Text
