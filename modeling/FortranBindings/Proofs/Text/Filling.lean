import FortranBindings.Proofs.Text.Literal
import FortranBindings.Proofs.Text.LongestMatch

/-!
# Templates that can be filled in

Where a template is filled in, a `$` that starts no token stays. So nothing is left of the tokens if
each `$` of the template starts one of those that are replaced (`Text.Fits`) and no value has a `$`
(`Text.isLiteral_substitute`). A template with one token is filled in by putting the value in its
place (`Text.substitute_token`).
-/

namespace FortranBindings.Text

namespace Template

/-- Does one of the tokens stand at each `$`? -/
def fits (tokens : List String) : List Char → Bool
  | [] => true
  | c :: rest =>
    (c ≠ '$' || tokens.any fun token => token ≠ "" && token.toList.isPrefixOf (c :: rest)) &&
      fits tokens rest

variable {tokens : List String} {replacements : Replacements} {text : List Char}

theorem fits_cons {c : Char} {rest : List Char} : fits tokens (c :: rest) = true ↔
    (c = '$' → ∃ token ∈ tokens, token ≠ "" ∧ token.toList <+: c :: rest) ∧
      fits tokens rest = true := by
  rw [fits, Bool.and_eq_true]
  refine and_congr_left' ?_
  simp only [ne_eq, decide_not, Bool.or_eq_true, Bool.not_eq_true', decide_eq_false_iff_not,
    List.any_eq_true, Bool.and_eq_true, List.isPrefixOf_iff_prefix]
  exact Decidable.imp_iff_not_or.symm

theorem fits_of_notMem (h : '$' ∉ text) : fits tokens text = true := by
  induction text with
  | nil => rfl
  | cons c rest ih =>
    rw [List.mem_cons, not_or] at h
    exact fits_cons.2 ⟨fun hc => absurd hc.symm h.1, ih h.2⟩

theorem fits_nil : fits [] text = true ↔ '$' ∉ text := by
  refine ⟨fun h => ?_, fits_of_notMem⟩
  induction text with
  | nil => exact List.not_mem_nil
  | cons c rest ih =>
    obtain ⟨hhead, hrest⟩ := fits_cons.1 h
    rw [List.mem_cons, not_or]
    refine ⟨fun hc => ?_, ih hrest⟩
    obtain ⟨token, htoken, -⟩ := hhead hc.symm
    cases htoken

/-- Nothing that is put in a text in place of its tokens has a `$`. -/
theorem notMem_expand (hvalues : ∀ pair ∈ replacements, IsLiteral pair.2)
    (h : fits (replacements.map (·.1)) text = true) (skip : Nat) :
    '$' ∉ expand replacements skip text := by
  induction text generalizing skip with
  | nil => simp [expand]
  | cons c rest ih =>
    obtain ⟨hhead, hrest⟩ := fits_cons.1 h
    cases skip with
    | succ skip => exact ih hrest skip
    | zero =>
      rw [expand]
      split
      · next hc =>
        obtain ⟨token, htoken, hne, hstart⟩ := hhead hc
        obtain ⟨pair, hpair, rfl⟩ := List.mem_map.1 htoken
        split
        · next value hfound =>
          rw [List.mem_append, not_or]
          exact ⟨hvalues _ (isLongest_of_longestMatch? hfound).mem, ih hrest _⟩
        · next hnone =>
          have hnil : pair.1.toList ≠ [] := fun hnil => hne (String.toList_inj.1 hnil)
          exact absurd hstart (longestMatch?_eq_none_iff.1 hnone pair hpair hnil)
      · next hc =>
        rw [List.mem_cons, not_or]
        exact ⟨Ne.symm hc, ih hrest 0⟩

/-- Text without a `$` stays as it is, and what comes behind it is gone through by itself. -/
theorem expand_append_of_notMem {before : List Char} (h : '$' ∉ before) (rest : List Char) :
    expand replacements 0 (before ++ rest) = before ++ expand replacements 0 rest := by
  induction before with
  | nil => rfl
  | cons c before ih =>
    rw [List.mem_cons, not_or] at h
    rw [List.cons_append, expand, if_neg (Ne.symm h.1), ih h.2, List.cons_append]

theorem expand_of_notMem (h : '$' ∉ text) : expand replacements 0 text = text := by
  have hexpand : expand replacements 0 (text ++ []) = text ++ [] := expand_append_of_notMem h []
  rwa [List.append_nil] at hexpand

/-- The characters of a token that was replaced are passed over. -/
theorem expand_skip (skipped rest : List Char) :
    expand replacements skipped.length (skipped ++ rest) = expand replacements 0 rest := by
  induction skipped with
  | nil => rfl
  | cons c skipped ih => exact ih

/-- Where the token stands its value is put in. -/
theorem expand_token {token : String} {name : List Char} (htoken : token.toList = '$' :: name)
    (value : String) (rest : List Char) : expand [(token, value)] 0 (token.toList ++ rest) =
      value.toList ++ expand [(token, value)] 0 rest := by
  have hmatch : longestMatch? [(token, value)] ('$' :: (name ++ rest)) = some (token, value) := by
    have hstart : token.toList <+: '$' :: (name ++ rest) := ⟨rest, by rw [htoken]; rfl⟩
    have hne : token.toList ≠ [] := by rw [htoken]; exact List.cons_ne_nil _ _
    exact if_pos ⟨hne, hstart, Nat.zero_le _⟩
  rw [htoken, List.cons_append, expand, if_pos rfl, hmatch]
  dsimp only
  rw [htoken, List.length_cons, Nat.add_sub_cancel, expand_skip]

end Template

/-- A token in a text without any other `$` is replaced by its value. -/
theorem substitute_token {before token after : String} {name : List Char}
    (hbefore : IsLiteral before) (htoken : token.toList = '$' :: name) (hafter : IsLiteral after)
    (value : String) :
    substitute (before ++ token ++ after) [(token, value)] = before ++ value ++ after := by
  refine String.toList_inj.1 ?_
  rw [substitute, String.toList_ofList]
  simp only [String.toList_append, List.append_assoc]
  rw [Template.expand_append_of_notMem hbefore, Template.expand_token htoken,
    Template.expand_of_notMem hafter]

/-- Each `$` in the text starts one of the tokens. -/
def Fits (tokens : List String) (text : String) : Prop :=
  Template.fits tokens text.toList = true

instance (tokens : List String) (text : String) : Decidable (Fits tokens text) :=
  inferInstanceAs (Decidable (_ = _))

variable {tokens : List String} {text template : String} {replacements : Replacements}

theorem Fits.of_isLiteral (h : IsLiteral text) : Fits tokens text :=
  Template.fits_of_notMem h

/-- Without any tokens there is no `$`. -/
theorem fits_nil : Fits [] text ↔ IsLiteral text :=
  Template.fits_nil

/-- **Filling in a template** leaves no `$` if there are values for all of its tokens. -/
theorem isLiteral_substitute (h : Fits (replacements.map (·.1)) template)
    (hvalues : ∀ pair ∈ replacements, IsLiteral pair.2) :
    IsLiteral (substitute template replacements) :=
  isLiteral_ofList.2 (Template.notMem_expand hvalues h 0)

end FortranBindings.Text
