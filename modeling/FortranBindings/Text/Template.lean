/-!
# Templates

A template is text in which tokens such as `$input` or `$1_ltype` stand for values. `substitute`
goes through the template once from left to right. At each `$` the longest token that matches is
replaced, so that `$1_ltype` is not taken for `$1` followed by `_ltype`; of equal tokens the last
one counts. A value that was put in is not looked at again, and a `$` that starts no token stays.
-/

namespace FortranBindings.Text

/-- Tokens and what they stand for. -/
abbrev Replacements := List (String × String)

namespace Template

/-- The longest token that `text` starts with, and its value; the last one of equal length. -/
def longestMatch? (replacements : Replacements) (text : List Char) : Option (String × String) :=
  replacements.foldl
    (fun best pair =>
      let token := pair.1.toList
      if token ≠ [] ∧ token <+: text ∧ (best.elim 0 fun b => b.1.toList.length) ≤ token.length then
        some pair
      else best)
    none

/-- Go through the text, passing over `skip` characters that belong to a replaced token. -/
def expand (replacements : Replacements) : Nat → List Char → List Char
  | _, [] => []
  | skip + 1, _ :: rest => expand replacements skip rest
  | 0, c :: rest =>
    if c = '$' then
      match longestMatch? replacements (c :: rest) with
      | some (token, value) =>
        value.toList ++ expand replacements (token.toList.length - 1) rest
      | none => c :: expand replacements 0 rest
    else c :: expand replacements 0 rest

/-- Does a token occur in a text? -/
def occurs (token : List Char) : List Char → Bool
  | [] => token.isEmpty
  | c :: rest => token.isPrefixOf (c :: rest) || occurs token rest

end Template

/-- Does a text mention a token? -/
def mentions (text token : String) : Bool :=
  Template.occurs token.toList text.toList

/-- The template with its tokens replaced by their values. -/
def substitute (template : String) (replacements : Replacements) : String :=
  String.ofList (Template.expand replacements 0 template.toList)

end FortranBindings.Text
