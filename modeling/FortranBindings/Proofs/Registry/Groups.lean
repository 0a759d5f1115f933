import Mathlib.Data.List.Induction
import FortranBindings.Proofs.Registry.Names

/-!
# Groups of overloads

Recording variants one after the other groups them: each public name has one group, the groups are
in the order in which their names come up first, and each has the variants that were recorded under
its name, in order (`Overloads.entries_record`).
-/

namespace FortranBindings

namespace Registry

variable {α : Type}

/-- Where no name is repeated, changing the value of a name changes every entry of that name. -/
theorem entries_upsert {registry : Registry α} (h : registry.names.Nodup) (name : String)
    (value : α) (f : α → α) : (registry.upsert name value f).entries =
      if name ∈ registry.names then
        registry.entries.map fun pair => if pair.1 = name then (pair.1, f pair.2) else pair
      else registry.entries ++ [(name, f value)] := by
  unfold upsert
  split
  · next id hid =>
    obtain ⟨v, hv⟩ := getElem?_of_lastIndex? hid
    have hname : registry.names[id]? = some name := by rw [names, List.getElem?_map, hv]; rfl
    rw [if_pos (List.mem_of_getElem? hname)]
    refine List.ext_getElem? fun i => ?_
    rw [modifyAt, List.getElem?_modify, List.getElem?_map]
    cases hi : registry.entries[i]? with
    | none => rfl
    | some pair =>
      have hkey : registry.names[i]? = some pair.1 := by rw [names, List.getElem?_map, hi]; rfl
      have hsame : id = i ↔ pair.1 = name := by
        refine ⟨fun heq => ?_, fun heq => ?_⟩
        · subst heq
          exact Option.some.inj (hkey.symm.trans hname)
        · refine (List.getElem?_inj (List.getElem?_eq_some_iff.1 hname).1 h).1 ?_
          rw [hname, hkey, heq]
      simp only [Option.map_eq_map, Option.map_some, hsame]
  · next hnone =>
    have hnew : name ∉ registry.names := notMem_of_lastIndex?_eq_none hnone
    rw [if_neg hnew, insert]

end Registry

namespace Overloads

/-- Variants grouped by their public names: the names in the order in which they come up first, each
with its variants in order. -/
def grouped (pairs : List (String × String)) : List (String × List String) :=
  (pairs.map (·.1)).eraseDups.map fun name =>
    (name, (pairs.filter (·.1 = name)).map (·.2))

variable {pairs : List (String × String)} {name variant : String}

/-- A name at the end counts if it did not come up before. -/
theorem eraseDups_concat (names : List String) (name : String) :
    (names ++ [name]).eraseDups = names.eraseDups ++ if name ∈ names then [] else [name] := by
  rw [List.eraseDups_append, List.removeAll]
  by_cases h : name ∈ names <;> simp [h, List.eraseDups_cons]

theorem nodup_eraseDups (names : List String) : names.eraseDups.Nodup := by
  induction names using List.reverseRecOn with
  | nil => exact List.nodup_nil
  | append_singleton names name ih =>
    rw [eraseDups_concat]
    split
    · rwa [List.append_nil]
    · next hnew => exact List.concat_eq_append ▸ ih.concat (mt List.mem_eraseDups.1 hnew)

theorem map_fst_grouped (pairs : List (String × String)) :
    (grouped pairs).map (·.1) = (pairs.map (·.1)).eraseDups := by
  rw [grouped, List.map_map]
  exact List.map_id _

/-- The group of a name gets one more variant, and the others stay as they are. -/
theorem map_snd_filter_concat (pairs : List (String × String)) (name variant other : String) :
    ((pairs ++ [(name, variant)]).filter (·.1 = other)).map (·.2) =
      (pairs.filter (·.1 = other)).map (·.2) ++ if name = other then [variant] else [] := by
  rw [List.filter_append, List.map_append, List.filter_singleton]
  by_cases h : name = other <;> simp [h]

/-- **One more variant** goes to the end of its group, or into a group of its own at the end. -/
theorem grouped_concat (pairs : List (String × String)) (name variant : String) :
    grouped (pairs ++ [(name, variant)]) =
      if name ∈ (pairs.map (·.1)).eraseDups then
        (grouped pairs).map fun group =>
          if group.1 = name then (group.1, group.2 ++ [variant]) else group
      else grouped pairs ++ [(name, [variant])] := by
  have hold : (pairs.map (·.1)).eraseDups.map (fun other =>
      (other, ((pairs ++ [(name, variant)]).filter (·.1 = other)).map (·.2))) =
        (grouped pairs).map fun group =>
          if group.1 = name then (group.1, group.2 ++ [variant]) else group := by
    rw [grouped, List.map_map]
    refine List.map_congr_left fun other _ => ?_
    rw [map_snd_filter_concat]
    by_cases h : name = other
    · simp [h]
    · simp [h, Ne.symm h]
  rw [grouped, List.map_append, List.map_singleton, eraseDups_concat, List.map_append, hold]
  by_cases hmem : name ∈ pairs.map (·.1)
  · rw [if_pos hmem, if_pos (List.mem_eraseDups.2 hmem)]
    exact List.append_nil _
  · have hnew : ∀ pair ∈ pairs, pair.1 ≠ name := fun pair hpair heq =>
      hmem (List.mem_map.2 ⟨pair, hpair, heq⟩)
    have hnone : pairs.filter (·.1 = name) = [] :=
      List.filter_eq_nil_iff.2 fun pair hpair => by simpa using hnew pair hpair
    have hsame : (grouped pairs).map (fun group =>
        if group.1 = name then (group.1, group.2 ++ [variant]) else group) = grouped pairs := by
      conv_rhs => rw [← List.map_id (grouped pairs)]
      refine List.map_congr_left fun group hgroup => if_neg fun heq => ?_
      have hname : group.1 ∈ (grouped pairs).map (·.1) := List.mem_map_of_mem hgroup
      rw [map_fst_grouped, List.mem_eraseDups, heq] at hname
      exact hmem hname
    rw [if_neg hmem, if_neg (mt List.mem_eraseDups.1 hmem), hsame, List.map_singleton,
      map_snd_filter_concat, hnone, if_pos rfl]
    rfl

/-- **Recording groups the variants** that were recorded so far. -/
theorem entries_record {overloads : Overloads} (h : overloads.entries = grouped pairs)
    (name variant : String) :
    (overloads.record name variant).entries = grouped (pairs ++ [(name, variant)]) := by
  have hnames : overloads.names = (pairs.map (·.1)).eraseDups := by
    rw [Registry.names, h, map_fst_grouped]
  have hnodup : overloads.names.Nodup := hnames ▸ nodup_eraseDups _
  rw [record, Registry.entries_upsert hnodup, grouped_concat, hnames, h]
  rfl

/-- Of things gone through in order, those that are recorded are grouped. -/
theorem entries_record_filter {α : Type} {isRecorded : α → Bool} {pair : α → String × String}
    {past : List α} {overloads : Overloads}
    (h : overloads.entries = grouped ((past.filter isRecorded).map pair)) (a : α) :
    (if isRecorded a then overloads.record (pair a).1 (pair a).2 else overloads).entries =
      grouped (((past ++ [a]).filter isRecorded).map pair) := by
  rw [List.filter_append, List.filter_singleton]
  cases isRecorded a with
  | true =>
    rw [cond_true, List.map_append]
    exact entries_record h _ _
  | false =>
    rw [cond_false, List.append_nil]
    exact h

end Overloads

end FortranBindings
