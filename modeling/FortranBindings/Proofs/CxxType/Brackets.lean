import FortranBindings.Proofs.CxxType.Words

/-!
# Template brackets in words

A word is what begins with a character of words, closes no bracket that it did not open, and has
other characters between brackets only (`IsWordPart`). If it closes all of its brackets it is
balanced, which is what words are (`isWord_iff`). A text that goes on like this to its end with a
bracket still open has no word at its start (`Token.scanWord_eq_none_iff`).
-/

namespace FortranBindings.CxxType

/-- The text goes on a word between `depth` open brackets, as far as it goes. -/
structure ContinuesWord (depth : Nat) (text : List Char) : Prop where
  /-- No more brackets are closed than are open. -/
  closes : ∀ before, before <+: text → before.count '>' ≤ depth + before.count '<'
  /-- Other characters stand between brackets. -/
  inside : ∀ before c after, text = before ++ c :: after →
    Token.isWordChar c = true ∨ c = '<' ∨ c = '>' ∨
      before.count '>' < depth + before.count '<'

/-- The text begins like a word and goes on like one to its end. -/
structure IsWordPart (text : List Char) : Prop extends ContinuesWord 0 text where
  begins : ∃ c ∈ text.head?, Token.isWordChar c = true

/-- The text is a word, with all of its brackets closed. -/
def IsBalancedWord (text : List Char) : Prop :=
  IsWordPart text ∧ text.count '<' = text.count '>'

/-- The text is a word up to its end, but there is a bracket that it does not close. -/
def IsUnclosedWord (text : List Char) : Prop :=
  IsWordPart text ∧ text.count '>' < text.count '<'

namespace Token

variable {depth next : Nat} {c : Char} {text word : List Char}

theorem bracketsAfter_eq_some_iff : bracketsAfter depth c = some next ↔
    [c].count '>' + next = depth + [c].count '<' ∧
      (isWordChar c = true ∨ c = '<' ∨ c = '>' ∨ 0 < depth) := by
  unfold bracketsAfter
  by_cases hopen : c = '<'
  · subst hopen
    simp
    omega
  · by_cases hclose : c = '>'
    · cases depth <;> simp [hclose]
      omega
    · by_cases hword : isWordChar c = true
      · simp [hopen, hclose, hword, eq_comm]
      · cases depth <;> simp [hopen, hclose, hword, eq_comm]

/-- The number of open brackets behind some characters of a word, or nothing if the word ends among
them. -/
def bracketsBehind (depth : Nat) (text : List Char) : Option Nat :=
  text.foldlM bracketsAfter depth

theorem bracketsBehind_cons (depth : Nat) (c : Char) (text : List Char) :
    bracketsBehind depth (c :: text) =
      (bracketsAfter depth c).bind fun next => bracketsBehind next text := rfl

/-- A word ends with its text where all brackets are closed there. -/
theorem scanWord_eq_some_iff :
    scanWord depth text = some (text, []) ↔ bracketsBehind depth text = some 0 := by
  induction text generalizing depth with
  | nil => cases depth <;> simp [scanWord, bracketsBehind]
  | cons c text ih =>
    rw [scanWord_cons_eq_some, bracketsBehind_cons, Option.bind_eq_some_iff]
    exact exists_congr fun next => and_congr_right fun _ => ih

/-- A text ends within a word where brackets are open at its end. -/
theorem scanWord_eq_none_iff :
    scanWord depth text = none ↔ ∃ n, bracketsBehind depth text = some (n + 1) := by
  induction text generalizing depth with
  | nil => cases depth <;> simp [scanWord, bracketsBehind]
  | cons c text ih =>
    rw [scanWord_cons, bracketsBehind_cons]
    cases bracketsAfter depth c with
    | none => simp
    | some next => simp [ih]

/-- What a step of scanning makes of a word that goes on. -/
theorem continuesWord_cons_iff : ContinuesWord depth (c :: text) ↔
    ∃ next, bracketsAfter depth c = some next ∧ ContinuesWord next text := by
  have hcount (d : Char) (before : List Char) :
      (c :: before).count d = [c].count d + before.count d := by
    rw [← List.singleton_append, List.count_append]
  constructor
  · intro h
    have hfirst := h.closes [c] ⟨text, rfl⟩
    refine ⟨depth + [c].count '<' - [c].count '>', ?_, ?_, ?_⟩
    · exact bracketsAfter_eq_some_iff.2 ⟨by omega, by simpa using h.inside [] c text rfl⟩
    · intro before hbefore
      have hcloses := h.closes (c :: before) (List.cons_prefix_cons.2 ⟨rfl, hbefore⟩)
      rw [hcount '>' before, hcount '<' before] at hcloses
      omega
    · intro before d after htext
      have hinside := h.inside (c :: before) d after (by rw [htext, List.cons_append])
      rw [hcount '>' before, hcount '<' before] at hinside
      exact hinside.imp_right (.imp_right (.imp_right fun hlt => by omega))
  · rintro ⟨next, hnext, h⟩
    obtain ⟨hbrackets, hc⟩ := bracketsAfter_eq_some_iff.1 hnext
    refine ⟨fun before hbefore => ?_, fun before d after htext => ?_⟩
    · cases before with
      | nil => exact Nat.zero_le _
      | cons e before =>
        obtain ⟨rfl, hprefix⟩ := List.cons_prefix_cons.1 hbefore
        have hcloses := h.closes before hprefix
        rw [hcount '>' before, hcount '<' before]
        omega
    · cases before with
      | nil =>
        obtain ⟨rfl, -⟩ := List.cons.inj htext
        simpa using hc
      | cons e before =>
        obtain ⟨rfl, htail⟩ := List.cons.inj htext
        have hinside := h.inside before d after htail
        rw [hcount '>' before, hcount '<' before]
        exact hinside.imp_right (.imp_right (.imp_right fun hlt => by omega))

/-- **The open brackets** behind some characters of a word are those that were opened and not
closed. -/
theorem bracketsBehind_eq_some_iff {n : Nat} : bracketsBehind depth text = some n ↔
    ContinuesWord depth text ∧ text.count '>' + n = depth + text.count '<' := by
  induction text generalizing depth with
  | nil =>
    have hempty : ContinuesWord depth [] := by
      refine ⟨fun before hbefore => ?_, fun before d after h => by simp at h⟩
      rw [List.prefix_nil.1 hbefore]
      exact Nat.zero_le _
    simp [bracketsBehind, hempty, eq_comm]
  | cons c text ih =>
    have hcount (d : Char) : (c :: text).count d = [c].count d + text.count d := by
      rw [← List.singleton_append, List.count_append]
    rw [bracketsBehind_cons, Option.bind_eq_some_iff, continuesWord_cons_iff,
      hcount '>', hcount '<']
    constructor
    · rintro ⟨next, hnext, hbehind⟩
      obtain ⟨hcontinues, hn⟩ := ih.1 hbehind
      have hbrackets := (bracketsAfter_eq_some_iff.1 hnext).1
      exact ⟨⟨next, hnext, hcontinues⟩, by omega⟩
    · rintro ⟨⟨next, hnext, hcontinues⟩, hn⟩
      have hbrackets := (bracketsAfter_eq_some_iff.1 hnext).1
      exact ⟨next, hnext, ih.2 ⟨hcontinues, by omega⟩⟩

end Token

variable {c : Char} {text : List Char}

/-- The brackets that are open at the end of a text which begins like a word. -/
theorem isWordPart_cons_iff {n : Nat} :
    (IsWordPart (c :: text) ∧ (c :: text).count '>' + n = (c :: text).count '<') ↔
      Token.isWordChar c = true ∧ Token.bracketsBehind 0 text = some n := by
  have hfirst (hc : Token.isWordChar c = true) :
      Token.bracketsBehind 0 (c :: text) = Token.bracketsBehind 0 text := by
    have hopen : c ≠ '<' := by rintro rfl; exact absurd hc (by decide)
    have hclose : c ≠ '>' := by rintro rfl; exact absurd hc (by decide)
    have hsame : Token.bracketsAfter 0 c = some 0 :=
      Token.bracketsAfter_eq_some_iff.2 ⟨by simp [hopen, hclose], Or.inl hc⟩
    rw [Token.bracketsBehind_cons, hsame, Option.bind_some]
  constructor
  · rintro ⟨⟨hcontinues, d, hd, hc⟩, hn⟩
    cases hd
    refine ⟨hc, ?_⟩
    rw [← hfirst hc]
    exact Token.bracketsBehind_eq_some_iff.2 ⟨hcontinues, by omega⟩
  · rintro ⟨hc, hbehind⟩
    rw [← hfirst hc] at hbehind
    obtain ⟨hcontinues, hn⟩ := Token.bracketsBehind_eq_some_iff.1 hbehind
    exact ⟨⟨hcontinues, c, rfl, hc⟩, by omega⟩

/-- **Words** are the texts that begin like a word, go on like one and close all brackets. -/
theorem isWord_iff : IsWord text ↔ IsBalancedWord text := by
  cases text with
  | nil =>
    refine iff_of_false ?_ fun h => ?_
    · rintro ⟨_, _, h, -⟩
      cases h
    · obtain ⟨d, hd, -⟩ := h.1.begins
      cases hd
  | cons c text =>
    have hpart : (IsWordPart (c :: text) ∧ (c :: text).count '>' = (c :: text).count '<') ↔
        Token.isWordChar c = true ∧ Token.scanWord 0 text = some (text, []) := by
      rw [Token.scanWord_eq_some_iff, ← isWordPart_cons_iff, Nat.add_zero]
    constructor
    · rintro ⟨d, tail, heq, hword⟩
      cases heq
      exact (hpart.2 hword).imp_right Eq.symm
    · intro h
      exact ⟨c, text, rfl, hpart.1 (h.imp_right Eq.symm)⟩

/-- A text with a bracket open to its end is one that no word is found in. -/
theorem isUnclosedWord_cons_iff : IsUnclosedWord (c :: text) ↔
    Token.isWordChar c = true ∧ Token.scanWord 0 text = none := by
  rw [Token.scanWord_eq_none_iff]
  constructor
  · rintro ⟨hpart, hlt⟩
    obtain ⟨n, hn⟩ := Nat.exists_eq_add_of_lt hlt
    obtain ⟨hc, hopen⟩ := isWordPart_cons_iff.1 ⟨hpart, (Nat.add_assoc ..).symm.trans hn.symm⟩
    exact ⟨hc, n, hopen⟩
  · rintro ⟨hc, n, hn⟩
    obtain ⟨hpart, hcount⟩ := isWordPart_cons_iff.2 ⟨hc, hn⟩
    exact ⟨hpart, by omega⟩

instance : DecidablePred IsBalancedWord := fun _ => decidable_of_iff _ isWord_iff

instance : DecidablePred IsUnclosedWord
  | [] => isFalse fun h => by
    obtain ⟨c, hc, -⟩ := h.1.begins
    cases hc
  | _ :: _ => decidable_of_iff _ isUnclosedWord_cons_iff.symm

end FortranBindings.CxxType
