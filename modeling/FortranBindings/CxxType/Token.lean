/-!
# Tokens of a type spelling

A type spelling is taken apart into words and the declarator marks `*`, `&` and `&&`, between which
ASCII whitespace may stand. A word starts with an ASCII letter or digit, `_` or `:`, and goes on
with such characters; between template brackets it may hold anything.

`scanWord_append` says that a scanned word and the rest make up the text, which also bounds the
recursion of `Token.scan`.
-/

namespace FortranBindings.CxxType

/-- A token of a type spelling. -/
inductive Token
  | word (text : String)
  | star
  | amp
  | ampAmp
  deriving DecidableEq, Repr

/-- What can be wrong with the characters of a spelling. -/
inductive LexicalFault
  /-- A word ends between template brackets. -/
  | unbalancedBrackets
  /-- A character that starts no token. -/
  | unexpected (char : Char)
  deriving DecidableEq, Repr

namespace Token

/-- ASCII whitespace: blank, tabulator, line feed, form feed, carriage return. -/
def isSpace (c : Char) : Bool :=
  c == ' ' || c == '\t' || c == '\n' || c == '\x0c' || c == '\r'

/-- A character of a word outside of brackets. -/
def isWordChar (c : Char) : Bool :=
  c.isAlphanum || c == '_' || c == ':'

/-- The characters of a word from inside `depth` open brackets on, and what follows the word. It is
`none` if the text ends between brackets. The depth is not bounded: a counter of 32 bits would count
the same as long as no text opens `2 ^ 31` brackets. -/
def scanWord : Nat → List Char → Option (List Char × List Char)
  | 0, [] => some ([], [])
  | _ + 1, [] => none
  | depth, c :: rest =>
    if c = '<' then (scanWord (depth + 1) rest).map fun r => (c :: r.1, r.2)
    else if c = '>' then
      match depth with
      | 0 => some ([], c :: rest)
      | depth + 1 => (scanWord depth rest).map fun r => (c :: r.1, r.2)
    else if depth = 0 ∧ !isWordChar c then some ([], c :: rest)
    else (scanWord depth rest).map fun r => (c :: r.1, r.2)

/-- A scanned word and what follows it make up the text. -/
theorem scanWord_append {depth : Nat} {text run rest : List Char}
    (h : scanWord depth text = some (run, rest)) : run ++ rest = text := by
  induction text generalizing depth run with
  | nil =>
    cases depth with
    | zero =>
      cases h
      rfl
    | succ depth => cases h
  | cons c tail ih =>
    have step {d : Nat} (h : (scanWord d tail).map (fun r => (c :: r.1, r.2)) = some (run, rest)) :
        run ++ rest = c :: tail := by
      obtain ⟨⟨w, r⟩, hw, he⟩ := Option.map_eq_some_iff.1 h
      cases he
      rw [List.cons_append, ih hw]
    rw [scanWord.eq_def] at h
    grind

/-- The tokens of a text. -/
def scan (text : List Char) : Except LexicalFault (List Token) :=
  match text with
  | [] => .ok []
  | '*' :: rest => (scan rest).map (star :: ·)
  | '&' :: '&' :: rest => (scan rest).map (ampAmp :: ·)
  | '&' :: rest => (scan rest).map (amp :: ·)
  | c :: rest =>
    if isSpace c then scan rest
    else if isWordChar c then
      match _h : scanWord 0 rest with
      | some (tail, after) => (scan after).map (word (String.ofList (c :: tail)) :: ·)
      | none => .error .unbalancedBrackets
    else .error (.unexpected c)
termination_by text.length
decreasing_by
  all_goals simp only [List.length_cons]
  all_goals try omega
  rw [← scanWord_append _h, List.length_append]
  omega

end Token

end FortranBindings.CxxType
