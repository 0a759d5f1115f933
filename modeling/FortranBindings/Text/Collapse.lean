import FortranBindings.Text.Identifier

/-!
# Collapsed separators

What is neither a letter nor a digit separates the parts of a name. `collapse` puts one underscore
in the place of each run of such separators, and `collapsedName` drops the underscores that this
leaves at the ends.
-/

namespace FortranBindings.Text

/-- What is neither an ASCII letter nor an ASCII digit. -/
def isSeparator (c : Char) : Bool :=
  !c.isAlphanum

/-- A text with an underscore in the place of each run of separators. -/
def collapse : List Char → List Char
  | [] => []
  | c :: rest =>
    if isSeparator c then '_' :: collapse (rest.dropWhile isSeparator) else c :: collapse rest
termination_by text => text.length
decreasing_by
  · exact Nat.lt_succ_of_le (List.dropWhile_sublist isSeparator).length_le
  · exact Nat.lt_succ_self _

/-- A text without some mark at its start and at its end. -/
def trimMark (mark : Char) (text : List Char) : List Char :=
  ((text.dropWhile (· == mark)).reverse.dropWhile (· == mark)).reverse

/-- A name with its separators collapsed and no underscores at its ends. -/
def collapsedName (name : String) : String :=
  String.ofList (trimMark '_' (collapse name.toList))

end FortranBindings.Text
