import Mathlib.Data.List.Nodup
import Mathlib.Data.List.Infix
import FortranBindings.Text.Template

/-!
# The longest token

Where a template is filled in, the longest token counts that stands at a place, and the last pair of
this token (`Template.IsLongest`). This is what is found there
(`Template.longestMatch?_eq_some_iff`), and nothing is found only where no token stands
(`Template.longestMatch?_eq_none_iff`). Neither tokens that begin otherwise than the text nor the
order of tokens that all differ have an effect on it (`Template.longestMatch?_filter`,
`Template.longestMatch?_of_perm`).
-/

namespace FortranBindings.Text.Template

variable {replacements others : Replacements} {text rest : List Char} {pair other : String × String}

/-- The pair is the one for the longest token that the text starts with: the last pair of this
token. -/
structure IsLongest (replacements : Replacements) (text : List Char) (pair : String × String) :
    Prop where
  ne_nil : pair.1.toList ≠ []
  starts : pair.1.toList <+: text
  length_le : ∀ other ∈ replacements, other.1.toList <+: text →
    other.1.toList.length ≤ pair.1.toList.length
  last : replacements.findRev? (·.1 = pair.1) = some pair

/-- The text starts with no token. -/
def NoneStarts (replacements : Replacements) (text : List Char) : Prop :=
  ∀ pair ∈ replacements, pair.1.toList ≠ [] → ¬pair.1.toList <+: text

theorem IsLongest.mem (h : IsLongest replacements text pair) : pair ∈ replacements := by
  have hlast := h.last
  rw [List.findRev?_eq_find?_reverse] at hlast
  exact List.mem_reverse.1 (List.mem_of_find?_eq_some hlast)

/-- There is no other pair for the longest token. -/
theorem IsLongest.unique (h : IsLongest replacements text pair)
    (h' : IsLongest replacements text other) : pair = other := by
  have hlength : pair.1.toList.length = other.1.toList.length :=
    Nat.le_antisymm (h'.length_le _ h.mem h.starts) (h.length_le _ h'.mem h'.starts)
  have htoken : pair.1 = other.1 :=
    String.toList_inj.1 ((List.prefix_of_prefix_length_le h.starts h'.starts
      hlength.le).eq_of_length hlength)
  have hlast := h'.last
  rw [← htoken, h.last] at hlast
  exact Option.some.inj hlast

theorem head?_eq_of_starts {token : List Char} {c : Char} (hne : token ≠ [])
    (h : token <+: c :: rest) : token.head? = some c := by
  cases token with
  | nil => exact absurd rfl hne
  | cons d name => rw [List.head?_cons, (List.cons_prefix_cons.1 h).1]

/-- The token begins like the text. -/
theorem IsLongest.head?_eq {c : Char} (h : IsLongest replacements (c :: rest) pair) :
    pair.1.toList.head? = some c :=
  head?_eq_of_starts h.ne_nil h.starts

theorem longestMatch?_concat (replacements : Replacements) (pair : String × String)
    (text : List Char) :
    longestMatch? (replacements ++ [pair]) text =
      if pair.1.toList ≠ [] ∧ pair.1.toList <+: text ∧
          ((longestMatch? replacements text).elim 0 fun b => b.1.toList.length) ≤
            pair.1.toList.length then
        some pair
      else longestMatch? replacements text := by
  rw [longestMatch?, List.foldl_append]
  rfl

theorem findRev?_concat (replacements : Replacements) (pair : String × String) (token : String) :
    (replacements ++ [pair]).findRev? (·.1 = token) =
      if pair.1 = token then some pair else replacements.findRev? (·.1 = token) := by
  rw [List.findRev?_eq_find?_reverse, List.reverse_append, List.findRev?_eq_find?_reverse]
  by_cases h : pair.1 = token <;> simp [h]

/-- No token that the text starts with is longer than the one that is found. -/
theorem length_le_longestMatch? (h : pair ∈ replacements) (hstarts : pair.1.toList <+: text) :
    pair.1.toList.length ≤
      (longestMatch? replacements text).elim 0 fun best => best.1.toList.length := by
  induction replacements using List.reverseRecOn with
  | nil => cases h
  | append_singleton replacements newer ih =>
    rw [longestMatch?_concat]
    rcases List.mem_append.1 h with h | h
    · split
      · next htaken => exact (ih h).trans htaken.2.2
      · exact ih h
    · obtain rfl := List.mem_singleton.1 h
      split
      · exact Nat.le_refl _
      · next hkept =>
        by_cases hnil : pair.1.toList = []
        · simp [hnil]
        · exact Nat.le_of_not_le fun hle => hkept ⟨hnil, hstarts, hle⟩

/-- What is found is the longest token. -/
theorem isLongest_of_longestMatch? (h : longestMatch? replacements text = some pair) :
    IsLongest replacements text pair := by
  have hlength : ∀ other ∈ replacements, other.1.toList <+: text →
      other.1.toList.length ≤ pair.1.toList.length := fun other hother hstarts => by
    simpa [h] using length_le_longestMatch? hother hstarts
  suffices hfound : pair.1.toList ≠ [] ∧ pair.1.toList <+: text ∧
      replacements.findRev? (·.1 = pair.1) = some pair from
    ⟨hfound.1, hfound.2.1, hlength, hfound.2.2⟩
  clear hlength
  induction replacements using List.reverseRecOn with
  | nil => cases h
  | append_singleton replacements newer ih =>
    rw [longestMatch?_concat] at h
    rw [findRev?_concat]
    split at h
    · next htaken =>
      cases h
      exact ⟨htaken.1, htaken.2.1, if_pos rfl⟩
    · next hkept =>
      obtain ⟨hne, hstarts, hlast⟩ := ih h
      -- A later pair of the same token would have been taken.
      have hother : newer.1 ≠ pair.1 := by
        intro hsame
        rw [hsame, h] at hkept
        exact hkept ⟨hne, hstarts, Nat.le_refl _⟩
      exact ⟨hne, hstarts, (if_neg hother).trans hlast⟩

theorem longestMatch?_eq_some_iff :
    longestMatch? replacements text = some pair ↔ IsLongest replacements text pair := by
  refine ⟨isLongest_of_longestMatch?, fun h => ?_⟩
  cases hfound : longestMatch? replacements text with
  | some best => rw [(isLongest_of_longestMatch? hfound).unique h]
  | none =>
    have hlength := length_le_longestMatch? h.mem h.starts
    rw [hfound] at hlength
    exact absurd (List.eq_nil_of_length_eq_zero (Nat.le_zero.1 hlength)) h.ne_nil

theorem longestMatch?_eq_none_iff :
    longestMatch? replacements text = none ↔ NoneStarts replacements text := by
  refine ⟨fun h pair hpair hne hstarts => ?_, fun h => ?_⟩
  · have hlength := length_le_longestMatch? hpair hstarts
    rw [h] at hlength
    exact hne (List.eq_nil_of_length_eq_zero (Nat.le_zero.1 hlength))
  · cases hfound : longestMatch? replacements text with
    | none => rfl
    | some best =>
      have hlongest := isLongest_of_longestMatch? hfound
      exact absurd hlongest.starts (h best hlongest.mem hlongest.ne_nil)

theorem NoneStarts.not_isLongest (h : NoneStarts replacements text) :
    ¬IsLongest replacements text pair :=
  fun hlongest => h pair hlongest.mem hlongest.ne_nil hlongest.starts

/-! ## Other lists of tokens -/

/-- Only tokens that begin with a `$` have an effect. -/
theorem longestMatch?_filter (rest : List Char) :
    longestMatch? (replacements.filter fun pair => pair.1.toList.head? = some '$') ('$' :: rest) =
      longestMatch? replacements ('$' :: rest) := by
  unfold longestMatch?
  rw [List.foldl_filter]
  refine List.foldl_ext _ _ _ fun best pair _ => ?_
  split
  · rfl
  · next hother =>
    refine (if_neg fun htaken => hother ?_).symm
    exact decide_eq_true (head?_eq_of_starts htaken.1 htaken.2.1)

/-- Where all tokens differ, each of them has one pair. -/
theorem findRev?_of_mem (hnodup : (replacements.map (·.1)).Nodup) (h : pair ∈ replacements) :
    replacements.findRev? (·.1 = pair.1) = some pair := by
  rw [List.findRev?_eq_find?_reverse]
  cases hfound : replacements.reverse.find? (·.1 = pair.1) with
  | none => simpa using List.find?_eq_none.1 hfound pair (List.mem_reverse.2 h)
  | some found =>
    have hmem : found ∈ replacements := List.mem_reverse.1 (List.mem_of_find?_eq_some hfound)
    have htoken : found.1 = pair.1 := by simpa using List.find?_some hfound
    rw [List.inj_on_of_nodup_map hnodup hmem h htoken]

theorem IsLongest.of_perm (hperm : replacements.Perm others) (hnodup : (others.map (·.1)).Nodup)
    (h : IsLongest replacements text pair) : IsLongest others text pair where
  ne_nil := h.ne_nil
  starts := h.starts
  length_le other hother := h.length_le other (hperm.mem_iff.2 hother)
  last := findRev?_of_mem hnodup (hperm.mem_iff.1 h.mem)

/-- The order of different tokens has no effect. -/
theorem longestMatch?_of_perm (hperm : replacements.Perm others)
    (hnodup : (replacements.map (·.1)).Nodup) (text : List Char) :
    longestMatch? replacements text = longestMatch? others text := by
  have hnodup' : (others.map (·.1)).Nodup := (hperm.map _).nodup_iff.1 hnodup
  refine Option.ext fun pair => ?_
  rw [longestMatch?_eq_some_iff, longestMatch?_eq_some_iff]
  exact ⟨.of_perm hperm hnodup', .of_perm hperm.symm hnodup⟩

end FortranBindings.Text.Template
