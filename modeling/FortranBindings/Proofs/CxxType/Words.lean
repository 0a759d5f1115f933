import Mathlib.Tactic.Common
import FortranBindings.CxxType.Token
import FortranBindings.Proofs.Except

/-!
# Words of a type spelling

`IsWord` says which texts are words: those that scanning takes up whole. A word is found again in
front of the end of the text and in front of a character that does not belong to a word
(`Token.scan_append_of_isWord`), and scanning gives no other words (`Token.isWord_of_mem_scan`).
Words with blanks between them are scanned one after the other (`Token.scan_intercalate`).
-/

namespace FortranBindings.CxxType

/-- A text that scanning takes for one word. -/
def IsWord (text : List Char) : Prop :=
  ∃ c tail, text = c :: tail ∧ Token.isWordChar c = true ∧ Token.scanWord 0 tail = some (tail, [])

instance : DecidablePred IsWord
  | [] => isFalse fun ⟨_, _, h, _⟩ => by cases h
  | c :: tail =>
    decidable_of_iff (Token.isWordChar c = true ∧ Token.scanWord 0 tail = some (tail, []))
      ⟨fun h => ⟨c, tail, rfl, h⟩, fun ⟨_, _, e, h⟩ => by cases e; exact h⟩

/-- Nothing follows, or a blank does. -/
def EndsWord (rest : List Char) : Prop :=
  rest = [] ∨ ∃ tail, rest = ' ' :: tail

theorem endsWord_nil : EndsWord [] := Or.inl rfl

theorem endsWord_blank (tail : List Char) : EndsWord (' ' :: tail) := Or.inr ⟨tail, rfl⟩

theorem EndsWord.head?_ne_amp {rest : List Char} (h : EndsWord rest) : rest.head? ≠ some '&' := by
  obtain rfl | ⟨tail, rfl⟩ := h <;> simp

namespace Token

/-- The number of open brackets behind a character of a word, or nothing if the word ends in front
of the character. -/
def bracketsAfter (depth : Nat) (c : Char) : Option Nat :=
  if c = '<' then some (depth + 1)
  else if c = '>' then
    match depth with
    | 0 => none
    | depth + 1 => some depth
  else if depth = 0 ∧ !isWordChar c then none
  else some depth

theorem scanWord_cons (depth : Nat) (c : Char) (text : List Char) :
    scanWord depth (c :: text) =
      match bracketsAfter depth c with
      | some next => (scanWord next text).map fun r => (c :: r.1, r.2)
      | none => some ([], c :: text) := by
  rw [scanWord.eq_def, bracketsAfter.eq_def]
  grind

/-- A word does not end between brackets. -/
theorem eq_zero_of_bracketsAfter {depth : Nat} {c : Char} (h : bracketsAfter depth c = none) :
    depth = 0 := by
  unfold bracketsAfter at h
  grind

/-- A step of scanning inside of a word. -/
theorem scanWord_cons_eq_some {depth : Nat} {c : Char} {text run rest : List Char} :
    scanWord depth (c :: text) = some (c :: run, rest) ↔
      ∃ next, bracketsAfter depth c = some next ∧ scanWord next text = some (run, rest) := by
  rw [scanWord_cons]
  cases bracketsAfter depth c with
  | none => simp
  | some next => simp [Prod.ext_iff]

/-- A scanned word is a word by itself. -/
theorem scanWord_run {depth : Nat} {text run rest : List Char}
    (h : scanWord depth text = some (run, rest)) : scanWord depth run = some (run, []) := by
  induction run generalizing depth text with
  | nil =>
    suffices hd : depth = 0 by rw [hd]; rfl
    cases text with
    | nil => cases depth with
      | zero => rfl
      | succ depth => cases h
    | cons c text =>
      rw [scanWord_cons] at h
      cases hb : bracketsAfter depth c with
      | none => exact eq_zero_of_bracketsAfter hb
      | some next => simp [hb] at h
  | cons c run ih =>
    cases text with
    | nil => cases depth <;> cases h
    | cons c' text =>
      obtain rfl : c = c' := by simpa using congrArg List.head? (scanWord_append h)
      obtain ⟨next, hb, hnext⟩ := scanWord_cons_eq_some.1 h
      exact scanWord_cons_eq_some.2 ⟨next, hb, ih hnext⟩

/-- The text ends a word that stands in front of it, outside of brackets. -/
def StopsWord (rest : List Char) : Prop :=
  ∀ c ∈ rest.head?, bracketsAfter 0 c = none

/-- A scanned word ends where it has to. -/
theorem stopsWord_of_scanWord {depth : Nat} {text run rest : List Char}
    (h : scanWord depth text = some (run, rest)) : StopsWord rest := by
  induction text generalizing depth run with
  | nil =>
    cases depth with
    | zero => cases h; exact nofun
    | succ depth => cases h
  | cons c text ih =>
    rw [scanWord_cons] at h
    cases hb : bracketsAfter depth c with
    | none =>
      obtain rfl := eq_zero_of_bracketsAfter hb
      simp only [hb, Option.some.injEq, Prod.mk.injEq] at h
      obtain ⟨-, rfl⟩ := h
      intro d hd
      cases hd
      exact hb
    | some next =>
      simp only [hb, Option.map_eq_some_iff] at h
      obtain ⟨⟨run', rest'⟩, hscan, heq⟩ := h
      cases heq
      exact ih hscan

/-- A word is found again where what follows ends it. -/
theorem scanWord_append_of_stopsWord {depth : Nat} {run rest : List Char}
    (h : scanWord depth run = some (run, [])) (hr : StopsWord rest) :
    scanWord depth (run ++ rest) = some (run, rest) := by
  induction run generalizing depth with
  | nil =>
    cases depth with
    | zero =>
      cases rest with
      | nil => rfl
      | cons c rest => simp [scanWord_cons, hr c rfl]
    | succ depth => cases h
  | cons c run ih =>
    obtain ⟨next, hb, hnext⟩ := scanWord_cons_eq_some.1 h
    exact scanWord_cons_eq_some.2 ⟨next, hb, ih hnext⟩

/-- A character of a word starts no other token. -/
theorem ne_mark_of_isWordChar {c : Char} (h : isWordChar c = true) :
    c ≠ '*' ∧ c ≠ '&' ∧ isSpace c = false := by
  refine ⟨?_, ?_, ?_⟩
  · rintro rfl
    exact absurd h (by decide)
  · rintro rfl
    exact absurd h (by decide)
  · by_contra hs
    simp only [isSpace, Bool.not_eq_false, Bool.or_eq_true, beq_iff_eq] at hs
    rcases hs with (((rfl | rfl) | rfl) | rfl) | rfl <;> exact absurd h (by decide)

@[simp] theorem scan_nil : scan [] = .ok [] := by rw [scan]

@[simp] theorem scan_blank (rest : List Char) : scan (' ' :: rest) = scan rest := by
  rw [scan] <;> simp [isSpace]

@[simp] theorem scan_star (rest : List Char) :
    scan ('*' :: rest) = (scan rest).map (star :: ·) := by
  rw [scan]

@[simp] theorem scan_ampAmp (rest : List Char) :
    scan ('&' :: '&' :: rest) = (scan rest).map (ampAmp :: ·) := by
  rw [scan]

/-- An ampersand is a mark of its own where no other one follows. -/
theorem scan_amp {rest : List Char} (h : rest.head? ≠ some '&') :
    scan ('&' :: rest) = (scan rest).map (amp :: ·) := by
  rw [scan]
  rintro tail rfl
  exact h rfl

/-- What scanning makes of a character of a word. -/
theorem scan_cons_of_isWordChar {c : Char} {text : List Char} (hc : isWordChar c = true) :
    scan (c :: text) =
      match scanWord 0 text with
      | some (tail, rest) => (scan rest).map (word (String.ofList (c :: tail)) :: ·)
      | none => .error .unbalancedBrackets := by
  obtain ⟨hstar, hamp, hspace⟩ := ne_mark_of_isWordChar hc
  rw [scan]
  · rw [if_neg (by simp [hspace]), if_pos hc]
    split <;> simp_all
  · exact hstar
  · exact fun _ h => absurd h hamp
  · exact hamp

/-- A word is scanned as one token where what follows ends it. -/
theorem scan_append_of_isWord {text rest : List Char} (h : IsWord text) (hr : StopsWord rest) :
    scan (text ++ rest) = (scan rest).map (word (String.ofList text) :: ·) := by
  obtain ⟨c, tail, rfl, hc, ht⟩ := h
  rw [List.cons_append, scan_cons_of_isWordChar hc, scanWord_append_of_stopsWord ht hr]

theorem stopsWord_of_endsWord {rest : List Char} (h : EndsWord rest) : StopsWord rest := by
  obtain rfl | ⟨tail, rfl⟩ := h
  · exact nofun
  · intro c hc
    cases hc
    rfl

/-- Words with blanks between them are scanned one after the other. -/
theorem scan_intercalate {words : List String} {rest : List Char} (hne : words ≠ [])
    (h : ∀ w ∈ words, IsWord w.toList) (hr : EndsWord rest) :
    scan ((" ".intercalate words).toList ++ rest) = (scan rest).map (words.map word ++ ·) := by
  induction words with
  | nil => exact absurd rfl hne
  | cons w words ih =>
    have hw : IsWord w.toList := h w List.mem_cons_self
    cases words with
    | nil => simp [scan_append_of_isWord hw (stopsWord_of_endsWord hr)]
    | cons w' words =>
      have htail := ih (List.cons_ne_nil _ _) fun v hv => h v (List.mem_cons_of_mem _ hv)
      have hsplit : (" ".intercalate (w :: w' :: words)).toList ++ rest =
          w.toList ++ ' ' :: ((" ".intercalate (w' :: words)).toList ++ rest) := by
        rw [String.intercalate_cons_cons]
        simp [-String.toList_intercalate]
      rw [hsplit, scan_append_of_isWord hw (stopsWord_of_endsWord (endsWord_blank _)), scan_blank,
        htail]
      cases scan rest <;> simp [Except.map]

/-- Scanning gives no other words. -/
theorem isWord_of_mem_scan {text : List Char} {tokens : List Token} {w : String}
    (h : scan text = .ok tokens) (hw : word w ∈ tokens) : IsWord w.toList := by
  fun_induction scan text generalizing tokens with
  | case1 =>
    cases h
    cases hw
  | case2 rest ih | case3 rest ih | case4 rest _ ih =>
    obtain ⟨others, hrest, rfl⟩ := Except.map_eq_ok.1 h
    exact ih hrest (by simpa using hw)
  | case5 c rest _ _ _ _ ih => exact ih h hw
  | case6 c rest _ _ _ _ hc tail after hscan ih =>
    obtain ⟨others, hafter, rfl⟩ := Except.map_eq_ok.1 h
    rcases List.mem_cons.1 hw with he | hw
    · cases he
      exact ⟨c, tail, String.toList_ofList, hc, scanWord_run hscan⟩
    · exact ih hafter hw
  | case7 => cases h
  | case8 => cases h

end Token

end FortranBindings.CxxType
