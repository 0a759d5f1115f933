/-!
# Blank characters

The characters that count as blank when text is trimmed are those with the Unicode property
`White_Space`. `trimStart` and `trimEnd` drop them from either end of a text, and `trimEnd` leaves
nothing exactly when every character is blank (`trimEnd_eq_nil_iff`).
-/

namespace FortranBindings.Text

/-- A character with the Unicode property `White_Space`. -/
def isBlank (c : Char) : Bool :=
  ('\t' ≤ c && c ≤ '\r') || c == ' ' || c == '\u0085' || c == '\u00a0' || c == '\u1680' ||
    ('\u2000' ≤ c && c ≤ '\u200a') || c == '\u2028' || c == '\u2029' || c == '\u202f' ||
    c == '\u205f' || c == '\u3000'

/-- Drop the blanks at the start. -/
def trimStart (text : List Char) : List Char :=
  text.dropWhile isBlank

/-- Drop the blanks at the end. -/
def trimEnd : List Char → List Char
  | [] => []
  | c :: rest =>
    match trimEnd rest with
    | [] => if isBlank c then [] else [c]
    | kept => c :: kept

/-- Every character that the core library takes for whitespace is blank. -/
theorem isBlank_of_isWhitespace {c : Char} (h : c.isWhitespace = true) : isBlank c = true := by
  simp only [Char.isWhitespace, Bool.or_eq_true, decide_eq_true_eq] at h
  rcases h with ((rfl | rfl) | rfl) | rfl <;> rfl

/-- Trimming leaves nothing exactly when every character is blank. -/
theorem trimEnd_eq_nil_iff {text : List Char} :
    trimEnd text = [] ↔ ∀ c ∈ text, isBlank c = true := by
  induction text with
  | nil => simp [trimEnd]
  | cons c rest ih =>
    unfold trimEnd
    split
    · next h => by_cases hc : isBlank c <;> simp_all
    · next h => simp_all

/-- What is trimmed once stays as it is. -/
theorem trimEnd_trimEnd (text : List Char) : trimEnd (trimEnd text) = trimEnd text := by
  induction text with
  | nil => rfl
  | cons c rest ih =>
    rw [trimEnd]
    split
    · by_cases hc : isBlank c <;> simp [trimEnd, hc]
    · next h =>
      rw [trimEnd, ih]
      split
      · next h' => exact absurd h' h
      · rfl

end FortranBindings.Text
