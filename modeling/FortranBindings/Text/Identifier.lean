/-!
# Identifiers from qualified names

Generated symbols may hold letters, digits and underscores only. `sanitize` keeps the runs of ASCII
letters and digits of a name and joins them with single underscores. `unqualified` is the part of a
name behind its last `::`.
-/

namespace FortranBindings.Text

/-- The maximal runs of ASCII letters and digits, in order. -/
def alphanumericRuns (name : List Char) : List (List Char) :=
  (name.splitOnP fun c => !c.isAlphanum).filter (· ≠ [])

/-- The runs of ASCII letters and digits of a name, joined with underscores. -/
def sanitize (name : String) : String :=
  "_".intercalate ((alphanumericRuns name.toList).map String.ofList)

/-- What stands behind the last `::`, if there is one. -/
def afterScope? : List Char → Option (List Char)
  | [] => none
  | c :: rest =>
    match afterScope? rest with
    | some name => some name
    | none =>
      match c, rest with
      | ':', ':' :: name => some name
      | _, _ => none

/-- The part of a qualified name behind its last `::`; the whole name if it has none. -/
def unqualified (name : String) : String :=
  match afterScope? name.toList with
  | some rest => String.ofList rest
  | none => name

/-- The name `rename` if one is given, else the identifier made of the unqualified `name`. -/
def publicName (rename : Option String) (name : String) : String :=
  rename.getD (sanitize (unqualified name))

end FortranBindings.Text
