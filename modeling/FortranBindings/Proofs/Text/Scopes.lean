import Mathlib.Data.List.Basic
import FortranBindings.Proofs.CxxType.Words
import FortranBindings.Proofs.Text.Identifiers

/-!
# The scopes of a qualified name

In a C++ name a `::` can stand between template brackets as well, where it qualifies an argument of
the template and not the name. The part of a name behind its last `::` outside of all brackets
(`Text.outerName`) ends with the part behind its last `::` of all (`Text.unqualified`), and the
identifiers that are made of the two are the same exactly if there is no letter or digit in between
(`Text.sanitize_append_eq_iff`). A bracket is open here where it is open for the tokens of a type
spelling, so that each of its words is balanced (`Text.isBalanced_of_isWord`).
-/

namespace FortranBindings.Text

/-! ## Template brackets -/

/-- The number of open template brackets behind a character, unless it closes one that is not
open. -/
def bracketStep (depth : Nat) (c : Char) : Option Nat :=
  if c = '<' then some (depth + 1)
  else if c = '>' then if depth = 0 then none else some (depth - 1)
  else some depth

/-- The number of open template brackets behind a text. -/
def openBrackets (depth : Nat) (text : List Char) : Option Nat :=
  text.foldlM bracketStep depth

theorem openBrackets_cons (depth : Nat) (c : Char) (rest : List Char) :
    openBrackets depth (c :: rest) = (bracketStep depth c).bind (openBrackets · rest) := rfl

/-- All template brackets are closed behind the text. -/
def IsBalanced (text : List Char) : Prop := openBrackets 0 text = some 0

instance : DecidablePred IsBalanced := fun text =>
  inferInstanceAs (Decidable (openBrackets 0 text = some 0))

/-- Inside of a word the brackets are counted as in the words of a type spelling. -/
theorem bracketStep_of_bracketsAfter {depth next : Nat} {c : Char}
    (h : CxxType.Token.bracketsAfter depth c = some next) : bracketStep depth c = some next := by
  unfold CxxType.Token.bracketsAfter at h
  unfold bracketStep
  grind

theorem openBrackets_of_scanWord {depth : Nat} {text : List Char}
    (h : CxxType.Token.scanWord depth text = some (text, [])) :
    openBrackets depth text = some 0 := by
  induction text generalizing depth with
  | nil =>
    cases depth with
    | zero => rfl
    | succ depth => cases h
  | cons c rest ih =>
    obtain ⟨next, hstep, hrest⟩ := CxxType.Token.scanWord_cons_eq_some.1 h
    rw [openBrackets_cons, bracketStep_of_bracketsAfter hstep, Option.bind_some, ih hrest]

/-- **The words of type spellings are balanced.** -/
theorem isBalanced_of_isWord {text : List Char} (h : CxxType.IsWord text) : IsBalanced text := by
  obtain ⟨c, tail, rfl, hc, htail⟩ := h
  have hopen : c ≠ '<' := by
    rintro rfl
    exact absurd hc (by decide)
  have hclose : c ≠ '>' := by
    rintro rfl
    exact absurd hc (by decide)
  rw [IsBalanced, openBrackets_cons, bracketStep, if_neg hopen, if_neg hclose]
  exact openBrackets_of_scanWord htail

/-! ## The part behind the last scope -/

/-- The part of a name is what stands behind the last `::` in front of which there is a scope. It is
the whole name if there is no such `::`. -/
structure IsPartBehind (isScope : List Char → Prop) (name part : List Char) : Prop where
  scope : part = name ∨ ∃ scope, isScope scope ∧ name = scope ++ ':' :: ':' :: part
  last : ∀ scope other, isScope scope → name = scope ++ ':' :: ':' :: other → part <:+ other

namespace IsPartBehind

variable {isScope isScope' : List Char → Prop} {name part part' : List Char}

theorem suffix (h : IsPartBehind isScope name part) : part <:+ name := by
  obtain rfl | ⟨scope, -, rfl⟩ := h.scope
  · exact List.suffix_rfl
  · exact ⟨scope ++ [':', ':'], by simp⟩

/-- The more counts as a scope, the shorter is the part behind the last one. -/
theorem suffix_of_imp (h : IsPartBehind isScope name part) (h' : IsPartBehind isScope' name part')
    (himp : ∀ scope, isScope scope → isScope' scope) : part' <:+ part := by
  obtain rfl | ⟨scope, hscope, hname⟩ := h.scope
  · exact h'.suffix
  · exact h'.last scope part (himp scope hscope) hname

/-- There is only one part behind the last scope. -/
theorem unique (h : IsPartBehind isScope name part) (h' : IsPartBehind isScope name part') :
    part = part' :=
  (h'.suffix_of_imp h fun _ => id).eq_of_length_le (h.suffix_of_imp h' fun _ => id).length_le

/-- What stands between two parts of a name ends with a `:`. -/
theorem eq_nil_or_eq_concat {hidden : List Char} (h : IsPartBehind isScope name part)
    (h' : IsPartBehind isScope' name part') (hhidden : hidden ++ part' = part) :
    hidden = [] ∨ ∃ start, hidden = start ++ [':'] := by
  obtain rfl | ⟨start, c, rfl⟩ := List.eq_nil_or_concat' hidden
  · exact .inl rfl
  · refine .inr ⟨start, ?_⟩
    obtain ⟨front, hname⟩ := h.suffix
    rw [← hhidden] at hname
    obtain rfl | ⟨scope, -, hscope⟩ := h'.scope
    · have hlength := congrArg List.length hname
      simp only [List.length_append, List.length_singleton] at hlength
      omega
    · have hends : front ++ start ++ [c] = scope ++ [':'] ++ [':'] := by
        rw [hscope] at hname
        refine (List.append_left_inj part').1 ?_
        simpa using hname
      rw [(List.append_singleton_inj.1 hends).2]

/-- Two parts of a name are the same exactly if the one behind more scopes is behind one of the
fewer, or behind none at all. -/
theorem eq_iff (h : IsPartBehind isScope name part) (h' : IsPartBehind isScope' name part')
    (himp : ∀ scope, isScope scope → isScope' scope) :
    part' = part ↔
      part' = name ∨ ∃ scope, isScope scope ∧ name = scope ++ ':' :: ':' :: part' := by
  have hsuffix := h.suffix_of_imp h' himp
  constructor
  · rintro rfl
    exact h.scope
  · rintro (rfl | ⟨scope, hscope, hname⟩)
    · exact hsuffix.eq_of_length_le h.suffix.length_le
    · exact hsuffix.eq_of_length_le (h.last scope part' hscope hname).length_le

end IsPartBehind

section

variable (isScope : List Char → Prop) [DecidablePred isScope]

/-- What stands behind the last `::` that has a scope in front of it, if there is one, for a name
that goes on after the characters `before`. -/
def behindScope? : (before name : List Char) → Option (List Char)
  | _, [] => none
  | before, c :: rest =>
    match behindScope? (before ++ [c]) rest with
    | some part => some part
    | none =>
      match c, rest with
      | ':', ':' :: part => if isScope before then some part else none
      | _, _ => none

variable {isScope} {before name part : List Char}

/-- What stands behind a scope stands behind a scope. -/
theorem exists_scope_of_behindScope? (h : behindScope? isScope before name = some part) :
    ∃ scope, isScope (before ++ scope) ∧ name = scope ++ ':' :: ':' :: part := by
  induction name generalizing before with
  | nil => cases h
  | cons c rest ih =>
    rw [behindScope?.eq_def] at h
    dsimp only at h
    split at h
    · next hrest =>
      cases h
      obtain ⟨scope, hscope, rfl⟩ := ih hrest
      exact ⟨c :: scope, by rwa [List.append_assoc] at hscope, rfl⟩
    · split at h
      · split at h
        · next hbefore =>
          cases h
          exact ⟨[], by rwa [List.append_nil], rfl⟩
        · cases h
      · cases h

/-- No scope ends later than the one that is found. -/
theorem exists_behindScope? (scope other : List Char) (h : isScope (before ++ scope)) :
    ∃ part, behindScope? isScope before (scope ++ ':' :: ':' :: other) = some part ∧
      part <:+ other := by
  induction scope generalizing before with
  | nil =>
    rw [List.append_nil] at h
    cases hrest : behindScope? isScope (before ++ [':']) (':' :: other) with
    | none =>
      refine ⟨other, ?_, List.suffix_rfl⟩
      rw [List.nil_append, behindScope?, hrest]
      exact if_pos h
    | some part =>
      refine ⟨part, by rw [List.nil_append, behindScope?, hrest], ?_⟩
      obtain ⟨scope, -, hname⟩ := exists_scope_of_behindScope? hrest
      cases scope with
      | nil => exact ⟨[':'], (List.cons.inj hname).2.symm⟩
      | cons c scope => exact ⟨scope ++ [':', ':'], by simp [(List.cons.inj hname).2]⟩
  | cons c scope ih =>
    rw [List.append_cons] at h
    obtain ⟨part, hpart, hsuffix⟩ := ih h
    refine ⟨part, ?_, hsuffix⟩
    rw [List.cons_append, behindScope?.eq_def]
    dsimp only
    rw [hpart]

theorem isPartBehind_behindScope? (name : List Char) :
    IsPartBehind isScope name ((behindScope? isScope [] name).getD name) where
  scope := by
    cases hpart : behindScope? isScope [] name with
    | none => exact .inl rfl
    | some part => exact .inr (exists_scope_of_behindScope? hpart)
  last scope other hscope hname := by
    have hbefore : isScope ([] ++ scope) := hscope
    obtain ⟨part, hpart, hsuffix⟩ := exists_behindScope? scope other hbefore
    rwa [hname, hpart]

end

/-- The part of a name behind its last `::` outside of all template brackets; the whole name if it
has none. -/
def outerName (name : String) : String :=
  String.ofList ((behindScope? IsBalanced [] name.toList).getD name.toList)

theorem isPartBehind_outerName (name : String) :
    IsPartBehind IsBalanced name.toList (outerName name).toList := by
  rw [outerName, String.toList_ofList]
  exact isPartBehind_behindScope? name.toList

/-- The unqualified name stands behind a `::` whatever is in front of it. -/
theorem afterScope?_eq_behindScope? (before name : List Char) :
    afterScope? name = behindScope? (fun _ => True) before name := by
  induction name generalizing before with
  | nil => rfl
  | cons c rest ih =>
    rw [afterScope?.eq_def, behindScope?.eq_def]
    dsimp only
    rw [ih]
    rfl

theorem isPartBehind_unqualified (name : String) :
    IsPartBehind (fun _ => True) name.toList (unqualified name).toList := by
  have hpart : IsPartBehind (fun _ => True) name.toList
      ((afterScope? name.toList).getD name.toList) := by
    rw [afterScope?_eq_behindScope? []]
    exact isPartBehind_behindScope? name.toList
  unfold unqualified
  split
  · next part hsome =>
    rw [hsome, Option.getD_some] at hpart
    rwa [String.toList_ofList]
  · next hnone => rwa [hnone] at hpart

/-- **The outer name ends with the unqualified name.** What stands in front of it there is empty or
ends with a `:`. It is empty exactly if the last `::` of the name, if there is one, lies outside of
all brackets. -/
theorem exists_outerName_eq (name : String) : ∃ hidden : List Char,
    (outerName name).toList = hidden ++ (unqualified name).toList ∧
      (hidden = [] ∨ ∃ start, hidden = start ++ [':']) ∧
      (hidden = [] ↔ unqualified name = name ∨ ∃ scope, IsBalanced scope ∧
        name.toList = scope ++ ':' :: ':' :: (unqualified name).toList) := by
  have houter := isPartBehind_outerName name
  have hunqualified := isPartBehind_unqualified name
  obtain ⟨hidden, hhidden⟩ := houter.suffix_of_imp hunqualified fun _ _ => trivial
  refine ⟨hidden, hhidden.symm, houter.eq_nil_or_eq_concat hunqualified hhidden, ?_⟩
  rw [← String.toList_inj, ← houter.eq_iff hunqualified fun _ _ => trivial, ← hhidden,
    List.self_eq_append_left]

/-! ## Identifiers -/

theorem length_le_length_intercalate_cons (separator text : String) (texts : List String) :
    text.length + (separator.intercalate texts).length ≤
      (separator.intercalate (text :: texts)).length := by
  cases texts with
  | nil => simp
  | cons other texts => simp [String.intercalate_cons_cons, String.length_append]

/-- Every text that is not empty makes what it is joined with longer. -/
theorem length_add_length_intercalate_le (separator : String) {front : List String}
    (texts : List String) (h : ∀ text ∈ front, text ≠ "") :
    front.length + (separator.intercalate texts).length ≤
      (separator.intercalate (front ++ texts)).length := by
  induction front with
  | nil => simp
  | cons text front ih =>
    obtain ⟨htext, hfront⟩ := List.forall_mem_cons.1 h
    have hpositive : text.length ≠ 0 := fun hzero => htext (String.length_eq_zero_iff.1 hzero)
    have hstep := length_le_length_intercalate_cons separator text (front ++ texts)
    have hrest := ih hfront
    rw [List.cons_append, List.length_cons]
    omega

theorem intercalate_append_eq_iff {separator : String} {front texts : List String}
    (h : ∀ text ∈ front, text ≠ "") :
    separator.intercalate (front ++ texts) = separator.intercalate texts ↔ front = [] := by
  refine ⟨fun heq => ?_, fun hnil => by rw [hnil, List.nil_append]⟩
  have hlength := length_add_length_intercalate_le separator texts h
  rw [heq] at hlength
  exact List.eq_nil_of_length_eq_zero (by omega)

/-- **Which characters an identifier tells apart.** What stands in front of a name and ends with a
`:` is not seen in the identifier exactly if it has no letters and digits. -/
theorem sanitize_append_eq_iff {hidden name : List Char}
    (h : hidden = [] ∨ ∃ start, hidden = start ++ [':']) :
    sanitize (String.ofList (hidden ++ name)) = sanitize (String.ofList name) ↔
      ∀ c ∈ hidden, c.isAlphanum = false := by
  obtain rfl | ⟨start, rfl⟩ := h
  · exact iff_of_true rfl nofun
  · have hcolon : (':' : Char).isAlphanum = false := by decide
    have hruns : alphanumericRuns (start ++ [':'] ++ name) =
        alphanumericRuns (start ++ [':']) ++ alphanumericRuns name := by
      rw [← List.append_cons, alphanumericRuns_append_cons hcolon,
        alphanumericRuns_append_cons hcolon]
      simp [alphanumericRuns]
    rw [← alphanumericRuns_eq_nil_iff, sanitize, sanitize, String.toList_ofList,
      String.toList_ofList, hruns, List.map_append, intercalate_append_eq_iff, List.map_eq_nil_iff]
    intro text htext
    obtain ⟨run, hrun, rfl⟩ := List.mem_map.1 htext
    have hnonempty : run ≠ [] := by simpa using (List.mem_filter.1 hrun).2
    simpa using hnonempty

end FortranBindings.Text
