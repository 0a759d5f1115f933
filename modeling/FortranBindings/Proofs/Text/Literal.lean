import Mathlib.Data.List.Basic
import FortranBindings.Text.Code
import FortranBindings.Text.Identifier

/-!
# Literal texts

A text without a `$` is literal: nothing in it is taken for a token. Whatever is put together from
literal texts is literal, and so are the parts of a literal text. The identifier that is made of a
name has no `$` in any case (`Text.isLiteral_sanitize`).
-/

namespace FortranBindings.Text

/-- The text has no `$`. -/
def IsLiteral (text : String) : Prop := '$' ∉ text.toList

instance : DecidablePred IsLiteral := fun text => inferInstanceAs (Decidable ('$' ∉ text.toList))

/-- All of the texts are literal. -/
def AllLiteral (texts : List String) : Prop := ∀ text ∈ texts, IsLiteral text

variable {text text' code : String} {texts texts' : List String}

/-! ## Texts put together -/

@[simp] theorem isLiteral_append :
    IsLiteral (text ++ text') ↔ IsLiteral text ∧ IsLiteral text' := by
  simp [IsLiteral]

theorem isLiteral_ofList {chars : List Char} : IsLiteral (String.ofList chars) ↔ '$' ∉ chars := by
  simp [IsLiteral]

@[simp] theorem allLiteral_nil : AllLiteral [] := nofun

@[simp] theorem allLiteral_cons :
    AllLiteral (text :: texts) ↔ IsLiteral text ∧ AllLiteral texts := by
  simp [AllLiteral]

@[simp] theorem allLiteral_append :
    AllLiteral (texts ++ texts') ↔ AllLiteral texts ∧ AllLiteral texts' := by
  simp [AllLiteral, or_imp, forall_and]

theorem allLiteral_flatten {blocks : List (List String)} (h : ∀ lines ∈ blocks, AllLiteral lines) :
    AllLiteral blocks.flatten := by
  intro line hline
  obtain ⟨lines, hlines, hmem⟩ := List.mem_flatten.1 hline
  exact h lines hlines line hmem

theorem allLiteral_flatMap {α : Type} {values : List α} {f : α → List String}
    (h : ∀ value ∈ values, AllLiteral (f value)) : AllLiteral (values.flatMap f) :=
  allLiteral_flatten (List.forall_mem_map.2 h)

theorem isLiteral_join : IsLiteral (String.join texts) ↔ AllLiteral texts := by
  simp [IsLiteral, AllLiteral]

/-- Texts that are made of some values each and joined are literal if each of them is. -/
theorem isLiteral_join_map {α : Type} {values : List α} {f : α → String}
    (h : ∀ value ∈ values, IsLiteral (f value)) : IsLiteral (String.join (values.map f)) :=
  isLiteral_join.2 (List.forall_mem_map.2 h)

theorem isLiteral_intercalate {separator : String} (hseparator : IsLiteral separator)
    (h : AllLiteral texts) : IsLiteral (separator.intercalate texts) := by
  induction texts with
  | nil => rw [String.intercalate_nil]; decide
  | cons text texts ih =>
    obtain ⟨htext, htexts⟩ := allLiteral_cons.1 h
    cases texts with
    | nil => rwa [String.intercalate_singleton]
    | cons text' texts =>
      rw [String.intercalate_cons_cons, isLiteral_append, isLiteral_append]
      exact ⟨⟨htext, hseparator⟩, ih htexts⟩

/-- Literal texts that are listed with commas between them. -/
theorem isLiteral_listed (h : AllLiteral texts) : IsLiteral (", ".intercalate texts) :=
  isLiteral_intercalate (by decide) h

theorem isLiteral_natToString (k : Nat) : IsLiteral (toString k) := by
  intro h
  have hmem : '$' ∈ Nat.toDigits 10 k := by simpa [Nat.toString_eq_ofList_toDigits] using h
  exact absurd (Nat.isDigit_of_mem_toDigits (by decide) (by decide) hmem) (by decide)

theorem isLiteral_intToString (k : Int) : IsLiteral (toString k) := by
  cases k with
  | ofNat k => exact isLiteral_natToString k
  | negSucc k =>
    have hsign : IsLiteral "-" := by decide
    have hall : IsLiteral ("-" ++ toString (k + 1)) :=
      isLiteral_append.2 ⟨hsign, isLiteral_natToString (k + 1)⟩
    exact hall

/-! ## Parts of a text -/

/-- What a list is split into has no other elements than the list, and no separators. -/
theorem mem_of_mem_splitOnP {p : Char → Bool} {chars piece : List Char} {c : Char}
    (hpiece : piece ∈ chars.splitOnP p) (hc : c ∈ piece) : c ∈ chars ∧ p c = false := by
  induction chars generalizing piece with
  | nil =>
    rw [List.splitOnP_nil, List.mem_singleton] at hpiece
    subst hpiece
    cases hc
  | cons head rest ih =>
    rw [List.splitOnP_cons_eq_if_modifyHead] at hpiece
    split at hpiece
    · rcases List.mem_cons.1 hpiece with rfl | hpiece
      · cases hc
      · have hrest := ih hpiece hc
        exact ⟨List.mem_cons_of_mem _ hrest.1, hrest.2⟩
    · next hhead =>
      -- The first piece of the rest gets the head as well.
      obtain ⟨first, others, hsplit⟩ := List.exists_cons_of_ne_nil (List.splitOnP_ne_nil p rest)
      rw [hsplit] at ih
      rw [hsplit, List.modifyHead_cons] at hpiece
      rcases List.mem_cons.1 hpiece with rfl | hpiece
      · rcases List.mem_cons.1 hc with rfl | hc
        · exact ⟨List.mem_cons_self, Bool.eq_false_iff.2 hhead⟩
        · have hfirst := ih List.mem_cons_self hc
          exact ⟨List.mem_cons_of_mem _ hfirst.1, hfirst.2⟩
      · have hother := ih (List.mem_cons_of_mem _ hpiece) hc
        exact ⟨List.mem_cons_of_mem _ hother.1, hother.2⟩

theorem trimEnd_subset (chars : List Char) : trimEnd chars ⊆ chars := by
  induction chars with
  | nil => exact List.Subset.refl _
  | cons c rest ih =>
    rw [trimEnd]
    split
    · split
      · exact List.nil_subset _
      · exact List.cons_subset_cons c (List.nil_subset _)
    · exact List.cons_subset_cons c ih

theorem isLiteral_withoutTrailingBlanks (h : IsLiteral code) :
    IsLiteral (withoutTrailingBlanks code) :=
  isLiteral_ofList.2 fun hmem => h (trimEnd_subset _ hmem)

theorem isLiteral_withoutLeadingBlanks (h : IsLiteral code) :
    IsLiteral (withoutLeadingBlanks code) :=
  isLiteral_ofList.2 fun hmem => h (List.dropWhile_subset _ hmem)

/-- The lines of literal code are literal. -/
theorem allLiteral_codeLines (h : IsLiteral code) : AllLiteral (codeLines code) := by
  intro line hline
  obtain ⟨chars, hchars, rfl⟩ := List.mem_map.1 hline
  obtain ⟨piece, hpiece, rfl⟩ := List.mem_map.1 (List.mem_filter.1 hchars).1
  exact isLiteral_ofList.2 fun hmem => h (mem_of_mem_splitOnP hpiece (trimEnd_subset _ hmem)).1

theorem allLiteral_elim_codeLines {code? : Option String} (h : ∀ code ∈ code?, IsLiteral code) :
    AllLiteral (code?.elim [] codeLines) := by
  cases code? with
  | none => exact allLiteral_nil
  | some code => exact allLiteral_codeLines (h code rfl)

theorem isLiteral_joinedLines (h : AllLiteral texts) : IsLiteral (joinedLines texts) :=
  isLiteral_intercalate (by decide) h

theorem isLiteral_indented {indent : String} (hindent : IsLiteral indent) (h : AllLiteral texts) :
    IsLiteral (indented indent texts) := by
  have hbreak : IsLiteral "\n" := by decide
  refine isLiteral_join_map fun line hline => ?_
  exact isLiteral_append.2 ⟨isLiteral_append.2 ⟨hindent, h line hline⟩, hbreak⟩

/-! ## Identifiers -/

/-- An identifier that is made of a name has letters, digits and underscores only. -/
theorem isLiteral_sanitize (name : String) : IsLiteral (sanitize name) := by
  refine isLiteral_intercalate (by decide) fun run hrun => ?_
  obtain ⟨chars, hchars, rfl⟩ := List.mem_map.1 hrun
  refine isLiteral_ofList.2 fun hmem => ?_
  have hdollar := (mem_of_mem_splitOnP (List.mem_filter.1 hchars).1 hmem).2
  exact absurd hdollar (by decide)

theorem isLiteral_publicName {rename : Option String} {name : String}
    (h : ∀ given ∈ rename, IsLiteral given) : IsLiteral (publicName rename name) := by
  cases rename with
  | none => exact isLiteral_sanitize _
  | some given => exact h given rfl

theorem afterScope?_subset {chars rest : List Char} (h : afterScope? chars = some rest) :
    rest ⊆ chars := by
  induction chars with
  | nil => cases h
  | cons c chars ih =>
    unfold afterScope? at h
    split at h
    · next name hname =>
      cases h
      exact List.subset_cons_of_subset _ (ih hname)
    · split at h
      · next name =>
        cases h
        exact List.subset_cons_of_subset _ (List.subset_cons_self ..)
      · cases h

theorem isLiteral_unqualified {name : String} (h : IsLiteral name) :
    IsLiteral (unqualified name) := by
  unfold unqualified
  split
  · next rest hrest => exact isLiteral_ofList.2 fun hmem => h (afterScope?_subset hrest hmem)
  · exact h

end FortranBindings.Text
