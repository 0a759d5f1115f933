import Mathlib.Data.List.Nodup
import FortranBindings.Proofs.Text.Decimal
import FortranBindings.Proxy.ArgumentName

/-!
# Names of dummy arguments are fresh

There is always a free name among the ones that are tried, because more of them are numbered behind
an underscore than names are used (`choose_isFree`). So the names chosen for parameters are free and
pairwise different, also without regard to case (`isFree_of_mem_chooseAll`, `nodup_chooseAll`).
-/

namespace FortranBindings.ArgumentName

variable {used : List String} {name : String}

theorem isFree_iff : isFree used name = true ↔ name.toLower ∉ reserved ∧ name.toLower ∉ used := by
  simp [isFree]

/-- A name that is free stays so if fewer names are used. -/
theorem isFree_of_subset {more : List String} (hsub : used ⊆ more) (h : isFree more name = true) :
    isFree used name = true := by
  obtain ⟨hreserved, hmore⟩ := isFree_iff.1 h
  exact isFree_iff.2 ⟨hreserved, fun hused => hmore (hsub hused)⟩

/-! ## Numbered names -/

/-- The name made of two numbers that is tried last. -/
def numbered (number k : Nat) : String :=
  "arg" ++ toString number ++ "_" ++ toString k

theorem toLower_numbered (number k : Nat) : (numbered number k).toLower = numbered number k := by
  have harg : "arg".toList.map Char.toLower = "arg".toList := by decide
  have hunderscore : "_".toList.map Char.toLower = "_".toList := by decide
  refine Text.toLower_eq_self ?_
  simp only [numbered, String.toList_append, List.map_append, Text.map_toLower_toString, harg,
    hunderscore]

theorem numbered_injective (number : Nat) : Function.Injective (numbered number) := by
  intro k l h
  have hlist := congrArg String.toList h
  simp only [numbered, String.toList_append, List.append_right_inj, String.toList_inj] at hlist
  exact Text.toString_injective hlist

/-- No reserved name is numbered: those with an underscore do not begin like numbered names. -/
theorem numbered_notMem_reserved (number k : Nat) : numbered number k ∉ reserved := by
  intro h
  have hreserved : ∀ r ∈ reserved, '_' ∈ r.toList → r.toList.head? = some 's' := by decide
  have hhead := hreserved _ h (by simp [numbered])
  simp [numbered] at hhead

/-! ## Chosen names -/

/-- There are more numbered names to try than names are used. -/
theorem exists_numbered_notMem (used : List String) (number : Nat) :
    ∃ k < used.length + 1, numbered number (number + k) ∉ used := by
  by_contra hall
  push Not at hall
  have hsub :
      (List.range (used.length + 1)).map (fun k => numbered number (number + k)) ⊆ used := by
    intro name h
    obtain ⟨k, hk, rfl⟩ := List.mem_map.1 h
    exact hall k (List.mem_range.1 hk)
  have hinj : Function.Injective fun k => numbered number (number + k) := fun k l h =>
    Nat.add_left_cancel (numbered_injective number h)
  have hlength := (List.nodup_range.map hinj).length_le_of_subset hsub
  rw [List.length_map, List.length_range] at hlength
  omega

theorem numbered_mem_candidates (used : List String) (number : Nat) (name : String) {k : Nat}
    (hk : k < used.length + 1) : numbered number (number + k) ∈ candidates used number name := by
  refine List.mem_append_right _ (List.mem_map.2 ⟨k, List.mem_range.2 hk, ?_⟩)
  rfl

/-- Among the names to try a free one is found. -/
theorem find?_candidates (used : List String) (number : Nat) (name : String) :
    (candidates used number name).find? (isFree used) = some (choose used number name) := by
  obtain ⟨k, hk, hused⟩ := exists_numbered_notMem used number
  have hfree : isFree used (numbered number (number + k)) = true := by
    rw [isFree_iff, toLower_numbered]
    exact ⟨numbered_notMem_reserved _ _, hused⟩
  have hsome : ((candidates used number name).find? (isFree used)).isSome := by
    rw [List.find?_isSome]
    exact ⟨_, numbered_mem_candidates used number name hk, hfree⟩
  obtain ⟨chosen, hchosen⟩ := Option.isSome_iff_exists.1 hsome
  rw [choose, hchosen, Option.getD_some]

/-- **A free name is chosen.** -/
theorem choose_isFree (used : List String) (number : Nat) (name : String) :
    isFree used (choose used number name) = true :=
  List.find?_some (find?_candidates used number name)

/-- A name that can be given away is kept. -/
theorem choose_of_isFree {number : Nat} (hvalid : isValid name = true)
    (hfree : isFree used name = true) : choose used number name = name := by
  rw [choose, candidates, if_pos hvalid]
  simp [hfree]

theorem length_chooseAll (used : List String) (pairs : List (Nat × String)) :
    (chooseAll used pairs).length = pairs.length := by
  induction pairs generalizing used with
  | nil => rfl
  | cons pair rest ih => rw [chooseAll, List.length_cons, List.length_cons, ih]

theorem isFree_of_mem_chooseAll {pairs : List (Nat × String)}
    (h : name ∈ chooseAll used pairs) : isFree used name = true := by
  induction pairs generalizing used with
  | nil => cases h
  | cons pair rest ih =>
    rcases List.mem_cons.1 h with rfl | h
    · exact choose_isFree used pair.1 pair.2
    · exact isFree_of_subset (List.subset_cons_self _ _) (ih h)

/-- The names that are chosen differ by more than case. -/
theorem nodup_chooseAll (used : List String) (pairs : List (Nat × String)) :
    ((chooseAll used pairs).map String.toLower).Nodup := by
  induction pairs generalizing used with
  | nil => exact List.nodup_nil
  | cons pair rest ih =>
    rw [chooseAll, List.map_cons, List.nodup_cons]
    refine ⟨fun hmem => ?_, ih _⟩
    obtain ⟨other, hother, hlower⟩ := List.mem_map.1 hmem
    have hfree := (isFree_iff.1 (isFree_of_mem_chooseAll hother)).2
    exact hfree (hlower ▸ List.mem_cons_self)

end FortranBindings.ArgumentName
