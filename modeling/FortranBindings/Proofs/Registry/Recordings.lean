import Mathlib.Data.List.Dedup
import Mathlib.Data.List.Induction
import FortranBindings.Proofs.Registry.Groups
import FortranBindings.Proofs.Registry.Indexed

/-!
# Recorded variants

Recording variants in any order groups them (`Overloads.entries_recordAll`). A grouping lists each
name once, in the order in which the names come up first, with the variants that were recorded under
it, and there is one grouping only (`Overloads.IsGrouping.unique`). Nothing is lost by grouping
(`Overloads.IsGrouping.perm`), and lookups and texts follow the groups
(`Overloads.recordings_exact`).
-/

namespace FortranBindings

/-- Where no name is repeated, a lookup finds the only entry of a name. -/
theorem Registry.find?_eq_lookup {α : Type} {registry : Registry α} (h : registry.names.Nodup)
    (name : String) : registry.find? name = registry.entries.lookup name := by
  cases hid : registry.idOf? name with
  | none =>
    have hname : ∀ pair ∈ registry.entries, name ≠ pair.1 := fun pair hpair heq =>
      notMem_of_lastIndex?_eq_none hid (heq ▸ List.mem_map_of_mem hpair)
    rw [find?, hid, List.lookup_eq_none_iff.2 fun pair hpair => by simpa using hname pair hpair]
    rfl
  | some id =>
    obtain ⟨value, hvalue⟩ := getElem?_of_lastIndex? hid
    have hfound : registry.find? name = some value := by
      rw [find?, hid, Option.bind_some, at?, hvalue, Option.map_some]
    obtain ⟨before, after, hentries⟩ := List.mem_iff_append.1 (List.mem_of_getElem? hvalue)
    have hbefore : ∀ pair ∈ before, name ≠ pair.1 := by
      intro pair hpair heq
      rw [names, hentries, List.map_append, List.map_cons] at h
      have hdisjoint := List.disjoint_of_nodup_append h
      exact hdisjoint (List.mem_map_of_mem hpair) (heq ▸ List.mem_cons_self)
    rw [hfound, List.lookup_eq_some_iff.2 ⟨before, after, hentries, by simpa using hbefore⟩]

namespace Overloads

variable {calls : List (String × String)} {groups others : List (String × List String)}

/-- Record variants one after the other. -/
def recordAll (calls : List (String × String)) : Overloads :=
  calls.foldl (fun overloads call => overloads.record call.1 call.2) {}

/-- **Recording groups the variants.** -/
theorem entries_recordAll (calls : List (String × String)) :
    (recordAll calls).entries = grouped calls := by
  induction calls using List.reverseRecOn with
  | nil => rfl
  | append_singleton calls call ih =>
    rw [recordAll, List.foldl_append, List.foldl_cons, List.foldl_nil]
    exact entries_record ih call.1 call.2

/-! ## Groupings -/

/-- The names are those that came up, each one once and in the order in which they came up first,
and each has all that was recorded under it, in order. -/
structure IsGrouping (calls : List (String × String)) (groups : List (String × List String)) :
    Prop where
  mem_names : ∀ name, name ∈ groups.map Prod.fst ↔ name ∈ calls.map Prod.fst
  in_order : (groups.map Prod.fst).Pairwise fun earlier later =>
    (calls.map Prod.fst).idxOf earlier < (calls.map Prod.fst).idxOf later
  variants_eq : ∀ group ∈ groups,
    group.2 = (calls.filter fun call => call.1 = group.1).map Prod.snd

/-- Names without repetitions stand in the order in which they come up first. -/
theorem pairwise_eraseDups (names : List String) :
    names.eraseDups.Pairwise fun earlier later => names.idxOf earlier < names.idxOf later := by
  induction names using List.reverseRecOn with
  | nil => exact List.Pairwise.nil
  | append_singleton names name ih =>
    have hold : names.eraseDups.Pairwise fun earlier later =>
        (names ++ [name]).idxOf earlier < (names ++ [name]).idxOf later := by
      refine ih.imp_of_mem fun {earlier later} hearlier hlater hlt => ?_
      rwa [List.idxOf_append_of_mem (List.mem_eraseDups.1 hearlier),
        List.idxOf_append_of_mem (List.mem_eraseDups.1 hlater)]
    rw [eraseDups_concat]
    split
    · rwa [List.append_nil]
    · next hnew =>
      refine List.pairwise_append.2 ⟨hold, List.pairwise_singleton _ _, fun earlier hearlier => ?_⟩
      have hmem : earlier ∈ names := List.mem_eraseDups.1 hearlier
      intro later hlater
      rw [List.mem_singleton.1 hlater, List.idxOf_append_of_mem hmem,
        List.idxOf_append_of_notMem hnew]
      exact Nat.lt_add_right _ (List.idxOf_lt_length_of_mem hmem)

/-- Variants that are grouped are a grouping. -/
theorem isGrouping_grouped (calls : List (String × String)) : IsGrouping calls (grouped calls) where
  mem_names name := by
    rw [map_fst_grouped]
    exact List.mem_eraseDups
  in_order := by
    rw [map_fst_grouped]
    exact pairwise_eraseDups _
  variants_eq := by
    intro group hgroup
    obtain ⟨name, -, rfl⟩ := List.mem_map.1 hgroup
    rfl

namespace IsGrouping

theorem nodup_names (h : IsGrouping calls groups) : (groups.map Prod.fst).Nodup :=
  h.in_order.imp fun hlt heq => absurd (heq ▸ hlt) (Nat.lt_irrefl _)

/-- A grouping is made of its names. -/
theorem eq_map_names (h : IsGrouping calls groups) :
    groups = (groups.map Prod.fst).map fun name =>
      (name, (calls.filter fun call => call.1 = name).map Prod.snd) := by
  rw [List.map_map]
  refine (List.map_id groups).symm.trans (List.map_congr_left fun group hgroup => ?_)
  exact Prod.ext rfl (h.variants_eq group hgroup)

/-- **There is one grouping only.** -/
theorem unique (h : IsGrouping calls groups) (h' : IsGrouping calls others) : groups = others := by
  have hperm : (groups.map Prod.fst).Perm (others.map Prod.fst) :=
    (List.perm_ext_iff_of_nodup h.nodup_names h'.nodup_names).2 fun name =>
      (h.mem_names name).trans (h'.mem_names name).symm
  have hnames : groups.map Prod.fst = others.map Prod.fst :=
    hperm.eq_of_pairwise (fun _ _ _ _ hlt hgt => absurd (Nat.lt_trans hlt hgt) (Nat.lt_irrefl _))
      h.in_order h'.in_order
  rw [h.eq_map_names, h'.eq_map_names, hnames]

/-- What was recorded under some names, name by name. -/
theorem flatMap_filter_perm {names : List String} (hnodup : names.Nodup)
    (calls : List (String × String)) :
    (names.flatMap fun name => calls.filter fun call => call.1 = name).Perm
      (calls.filter fun call => call.1 ∈ names) := by
  induction names with
  | nil => simp
  | cons name names ih =>
    obtain ⟨hname, hnodup⟩ := List.nodup_cons.1 hnodup
    have hfirst : (calls.filter fun call => call.1 ∈ name :: names).filter
        (fun call => call.1 = name) = calls.filter fun call => call.1 = name := by
      rw [List.filter_filter]
      refine List.filter_congr fun call _ => ?_
      by_cases h : call.1 = name <;> simp [h]
    have hrest : (calls.filter fun call => call.1 ∈ name :: names).filter
        (fun call => !decide (call.1 = name)) = calls.filter fun call => call.1 ∈ names := by
      rw [List.filter_filter]
      refine List.filter_congr fun call _ => ?_
      by_cases h : call.1 = name
      · simp [h, hname]
      · simp [h]
    have hsplit := List.filter_append_perm (fun call : String × String => decide (call.1 = name))
      (calls.filter fun call => call.1 ∈ name :: names)
    rw [hfirst, hrest] at hsplit
    exact ((ih hnodup).append_left _).trans hsplit

/-- **Nothing is lost**: the groups have every recorded variant as often as it was recorded. -/
theorem perm (h : IsGrouping calls groups) :
    (groups.flatMap fun group => group.2.map (group.1, ·)).Perm calls := by
  have hgroup (name : String) : ((calls.filter fun call => call.1 = name).map Prod.snd).map
      (name, ·) = calls.filter fun call => call.1 = name := by
    rw [List.map_map]
    refine (List.map_congr_left fun call hcall => ?_).trans (List.map_id _)
    have hname : call.1 = name := by simpa using (List.mem_filter.1 hcall).2
    exact Prod.ext hname.symm rfl
  have hall : (calls.filter fun call => call.1 ∈ groups.map Prod.fst) = calls :=
    List.filter_eq_self.2 fun call hcall =>
      decide_eq_true ((h.mem_names call.1).2 (List.mem_map_of_mem hcall))
  have hperm := flatMap_filter_perm h.nodup_names calls
  rw [hall] at hperm
  rw [h.eq_map_names, List.flatMap_map]
  simp only [hgroup]
  exact hperm

/-- What is found under a name in a grouping. -/
theorem lookup (h : IsGrouping calls groups) (name : String) : groups.lookup name =
    if name ∈ calls.map Prod.fst then
      some ((calls.filter fun call => call.1 = name).map Prod.snd)
    else none := by
  have hmem := h.mem_names name
  cases hfound : groups.lookup name with
  | none =>
    have hnone : name ∉ groups.map Prod.fst := by
      rintro hname
      obtain ⟨group, hgroup, rfl⟩ := List.mem_map.1 hname
      simpa using List.lookup_eq_none_iff.1 hfound group hgroup
    rw [if_neg (mt hmem.2 hnone)]
  | some variants =>
    obtain ⟨before, after, rfl, -⟩ := List.lookup_eq_some_iff.1 hfound
    have hgroup : (name, variants) ∈ before ++ (name, variants) :: after :=
      List.mem_append_cons_self
    rw [if_pos (hmem.1 (List.mem_map_of_mem hgroup)), ← h.variants_eq _ hgroup]

end IsGrouping

/-! ## Texts -/

/-- The lines that export a group and map its name to its variants. -/
def interfaceLines (group : String × List String) : List String :=
  [" public :: " ++ group.1, " interface " ++ group.1,
    "  module procedure " ++ ", ".intercalate group.2, " end interface"]

/-- The line that binds the variants of a group in a derived type. -/
def genericLine (group : String × List String) : String :=
  "  generic :: " ++ group.1 ++ " => " ++ ", ".intercalate group.2

theorem moduleInterfaces_eq (overloads : Overloads) : overloads.moduleInterfaces =
    String.join ((overloads.entries.flatMap interfaceLines).map (· ++ "\n")) := by
  rw [moduleInterfaces]
  induction overloads.entries with
  | nil => rfl
  | cons group groups ih =>
    rw [List.map_cons, String.join_cons, ih, List.flatMap_cons, List.map_append,
      String.join_append]
    simp [interfaceLines, ← String.toList_inj]

theorem genericBindings_eq (overloads : Overloads) : overloads.genericBindings =
    String.join ((overloads.entries.map genericLine).map (· ++ "\n")) := by
  rw [genericBindings, List.map_map]
  rfl

/-! ## Recordings -/

/-- Recording a variant as what is done to a registry with an index. -/
def recordStep (call : String × String) : RegistryStep (List String) :=
  .upsert call.1 [] (· ++ [call.2])

/-- Recording in a registry with an index never fails, and it records the same. -/
theorem run?_recordStep (calls : List (String × String)) :
    (({} : IndexedRegistry (List String)).run? (calls.map recordStep)).map
      IndexedRegistry.toRegistry = some (recordAll calls) := by
  rw [IndexedRegistry.isAligned_empty.map_toRegistry_run?]
  have hrun (overloads : Overloads) : Registry.run? overloads (calls.map recordStep) =
      some (calls.foldl (fun overloads call => overloads.record call.1 call.2) overloads) := by
    induction calls generalizing overloads with
    | nil => rfl
    | cons call calls ih => exact ih (overloads.record call.1 call.2)
  exact hrun {}

/-- **Overloads are grouped stably and without loss.** Whatever is recorded in whatever order, the
groups are the only grouping of it: each name once, in the order in which the names came up first,
with all variants that were recorded under it, in order. A lookup finds the variants of the group of
a name, or nothing if nothing was recorded under it. The texts have one block for each group and one
line for each group, in order. A registry with an index has the same groups and finds the same. -/
theorem recordings_exact (calls : List (String × String)) :
    (∀ groups, IsGrouping calls groups ↔ (recordAll calls).entries = groups) ∧
    ((recordAll calls).entries.flatMap fun group => group.2.map (group.1, ·)).Perm calls ∧
    (∀ name, (recordAll calls).variants? name = (recordAll calls).entries.lookup name ∧
      (recordAll calls).variants? name =
        if name ∈ calls.map Prod.fst then
          some ((calls.filter fun call => call.1 = name).map Prod.snd)
        else none) ∧
    (recordAll calls).moduleInterfaces =
      String.join (((recordAll calls).entries.flatMap interfaceLines).map (· ++ "\n")) ∧
    (recordAll calls).genericBindings =
      String.join (((recordAll calls).entries.map genericLine).map (· ++ "\n")) ∧
    ∃ indexed, ({} : IndexedRegistry (List String)).run? (calls.map recordStep) = some indexed ∧
      indexed.entries = (recordAll calls).entries ∧
      ∀ name, indexed.find? name = (recordAll calls).variants? name := by
  have hgrouping : IsGrouping calls (recordAll calls).entries :=
    entries_recordAll calls ▸ isGrouping_grouped calls
  have hlookup (name : String) :
      (recordAll calls).variants? name = (recordAll calls).entries.lookup name :=
    Registry.find?_eq_lookup hgrouping.nodup_names name
  refine ⟨fun groups => ⟨hgrouping.unique, fun h => h ▸ hgrouping⟩, hgrouping.perm,
    fun name => ⟨hlookup name, (hlookup name).trans (hgrouping.lookup name)⟩,
    moduleInterfaces_eq _, genericBindings_eq _, ?_⟩
  obtain ⟨indexed, hrun, hkept⟩ := Option.map_eq_some_iff.1 (run?_recordStep calls)
  refine ⟨indexed, hrun, congrArg Registry.entries hkept, fun name => ?_⟩
  rw [← (IndexedRegistry.isAligned_empty.run? hrun).find?_toRegistry, hkept, variants?]

/-- Groups that are recorded in turns. -/
example : (recordAll [("zeta", "b"), ("alpha", "c"), ("zeta", "a"), ("zeta", "b")]).entries =
    [("zeta", ["b", "a", "b"]), ("alpha", ["c"])] := by decide

end Overloads

end FortranBindings
