import Mathlib.Data.List.Induction
import Mathlib.Data.List.NodupEquivFin
import FortranBindings.Declarations.Basic
import FortranBindings.Proofs.Registry.Lookups

/-!
# Looking up classes

A class is looked up by its exact name in the registry of the classes, where a later class shadows
an earlier one of its name (`Declarations.find?_classRegistry`). It is found by its exact name as
the first one of this name (`Declarations.findClass_of_isFirstNamed`). So the two lookups agree on a
name exactly if it is not declared twice (`Declarations.classLookups_exact`).

Where no name is declared twice, a class is found by its exact name, wherever it stands, or else by
the end of its name if no other class matches. Neither this nor the failures depend on the order of
the classes (`Declarations.findClass_exact`).
-/

namespace FortranBindings.Declarations

variable {decls : Declarations} {name query : String} {number : Nat} {cls : Class}

/-! ## The registry of the classes -/

/-- The classes, each one under its name. -/
def classRegistry (decls : Declarations) : Registry Class where
  entries := decls.classes.map fun cls => (cls.name, cls)

/-- Declaring a class adds it to the registry. -/
theorem classRegistry_addClass (decls : Declarations) (cls : Class) :
    (decls.addClass cls).classRegistry = decls.classRegistry.insert cls.name cls := by
  simp [classRegistry, classes, addClass, Item.class?, Registry.insert]

/-- The class that a name stands for is the one in the registry. -/
theorem find?_classRegistry (decls : Declarations) (name : String) :
    decls.classRegistry.find? name = decls.getClass? name := by
  unfold classRegistry getClass?
  induction decls.classes using List.reverseRecOn with
  | nil => rfl
  | append_singleton classes cls ih =>
    have hinsert := Registry.find?_insert ⟨classes.map fun cls => (cls.name, cls)⟩ cls.name name cls
    rw [Registry.insert, ih, List.findRev?_eq_find?_reverse] at hinsert
    rw [List.map_append, List.map_singleton, hinsert, List.findRev?_eq_find?_reverse,
      List.reverse_concat, List.find?_cons]
    by_cases hname : cls.name = name <;> simp [hname]

theorem getElem?_names_classRegistry (decls : Declarations) (number : Nat) :
    decls.classRegistry.names[number]? = decls.classes[number]?.map Class.name := by
  rw [Registry.names, classRegistry, List.map_map, List.getElem?_map]
  rfl

/-! ## Exact names -/

/-- The class is the first one of this name, and this is its number. -/
structure IsFirstNamed (decls : Declarations) (name : String) (number : Nat) (cls : Class) :
    Prop where
  at_number : decls.classes[number]? = some cls
  name_eq : cls.name = name
  ne_before : ∀ earlier < number, ∀ other, decls.classes[earlier]? = some other →
    other.name ≠ name

/-- The class is the last one of this name, and this is its number. -/
structure IsLastNamed (decls : Declarations) (name : String) (number : Nat) (cls : Class) :
    Prop where
  at_number : decls.classes[number]? = some cls
  name_eq : cls.name = name
  ne_behind : ∀ later > number, ∀ other, decls.classes[later]? = some other → other.name ≠ name

/-- The scan stops at the first class of the name. -/
theorem find?_zipIdx_eq_some_iff :
    decls.classes.zipIdx.find? (·.1.name = name) = some (cls, number) ↔
      decls.IsFirstNamed name number cls := by
  rw [List.find?_eq_some_iff_getElem]
  constructor
  · rintro ⟨hname, position, hposition, hat, hbefore⟩
    rw [List.getElem_zipIdx, Nat.zero_add, Prod.mk.injEq] at hat
    obtain ⟨hcls, rfl⟩ := hat
    refine ⟨List.getElem?_eq_some_iff.2 ⟨_, hcls⟩, by simpa using hname, ?_⟩
    intro earlier hearlier other hother
    obtain ⟨hlt, rfl⟩ := List.getElem?_eq_some_iff.1 hother
    simpa using hbefore earlier hearlier
  · rintro ⟨hat, hname, hbefore⟩
    obtain ⟨hlt, rfl⟩ := List.getElem?_eq_some_iff.1 hat
    refine ⟨by simpa using hname, number, by simpa using hlt, by simp, fun earlier hearlier => ?_⟩
    have hlt' : earlier < decls.classes.length := Nat.lt_trans hearlier hlt
    simpa using hbefore earlier hearlier _ (List.getElem?_eq_getElem hlt')

/-- **The first class of a name** is found by it. -/
theorem findClass_of_isFirstNamed (h : decls.IsFirstNamed name number cls) :
    decls.findClass name = .ok (number, cls) := by
  rw [findClass, find?_zipIdx_eq_some_iff.2 h]

theorem exists_isFirstNamed (h : cls ∈ decls.classes) :
    ∃ number found, decls.IsFirstNamed cls.name number found := by
  cases hfind : decls.classes.zipIdx.find? (·.1.name = cls.name) with
  | some entry => exact ⟨entry.2, entry.1, find?_zipIdx_eq_some_iff.1 hfind⟩
  | none =>
    obtain ⟨number, hnumber⟩ := List.getElem?_of_mem h
    have hentry : (cls, number) ∈ decls.classes.zipIdx := List.mk_mem_zipIdx_iff_getElem?.2 hnumber
    simpa using List.find?_eq_none.1 hfind _ hentry

/-- **The last class of a name** is the one that the name stands for. -/
theorem isLastNamed_iff : decls.IsLastNamed name number cls ↔
    decls.classRegistry.idOf? name = some number ∧ decls.getClass? name = some cls := by
  have hget (hid : decls.classRegistry.idOf? name = some number) :
      decls.getClass? name = decls.classes[number]? := by
    rw [← find?_classRegistry, Registry.find?, hid, Option.bind_some, Registry.at?, classRegistry,
      List.getElem?_map, Option.map_map]
    exact Option.map_id' ..
  have hbehind : (∀ later > number, decls.classRegistry.names[later]? ≠ some name) ↔
      ∀ later > number, ∀ other, decls.classes[later]? = some other → other.name ≠ name := by
    simp only [getElem?_names_classRegistry, ne_eq, Option.map_eq_some_iff, not_exists, not_and]
  constructor
  · rintro ⟨hat, hname, hlast⟩
    have hid : decls.classRegistry.idOf? name = some number := by
      rw [Registry.idOf?_eq_some_iff, hbehind, getElem?_names_classRegistry, hat, Option.map_some,
        hname]
      exact ⟨rfl, hlast⟩
    exact ⟨hid, (hget hid).trans hat⟩
  · rintro ⟨hid, hcls⟩
    have hat := (hget hid).symm.trans hcls
    rw [Registry.idOf?_eq_some_iff, hbehind, getElem?_names_classRegistry, hat, Option.map_some]
      at hid
    exact ⟨hat, Option.some.inj hid.1, hid.2⟩

theorem getClass?_eq_none_iff : decls.getClass? name = none ↔
    name ∉ decls.classes.map Class.name := by
  rw [getClass?, List.findRev?_eq_find?_reverse, List.find?_eq_none]
  simp

/-- A name that stands for a class has a last one. -/
theorem exists_isLastNamed (h : decls.getClass? name = some cls) :
    ∃ number, decls.IsLastNamed name number cls := by
  have hfind := h
  rw [← find?_classRegistry, Registry.find?] at hfind
  obtain ⟨number, hid, -⟩ := Option.bind_eq_some_iff.1 hfind
  exact ⟨number, isLastNamed_iff.2 ⟨hid, h⟩⟩

/-- A name comes up twice exactly if classes with two numbers have it. -/
theorem one_lt_count_iff : 1 < (decls.classes.map Class.name).count name ↔
    ∃ first last : Nat, first < last ∧
      (∃ cls : Class, decls.classes[first]? = some cls ∧ cls.name = name) ∧
      ∃ cls : Class, decls.classes[last]? = some cls ∧ cls.name = name := by
  have hat (position : Nat) :
      (∃ cls : Class, decls.classes[position]? = some cls ∧ cls.name = name) ↔
        ∃ h : position < (decls.classes.map Class.name).length,
          name = (decls.classes.map Class.name)[position] := by
    rw [← Option.map_eq_some_iff, ← List.getElem?_map, List.getElem?_eq_some_iff]
    simp only [eq_comm]
  refine List.duplicate_iff_two_le_count.symm.trans ?_
  rw [List.duplicate_iff_exists_distinct_get]
  simp only [hat]
  constructor
  · rintro ⟨first, last, hlt, hfirst, hlast⟩
    exact ⟨first, last, hlt, ⟨first.2, hfirst⟩, last.2, hlast⟩
  · rintro ⟨first, last, hlt, ⟨hfirst, hfirst'⟩, hlast, hlast'⟩
    exact ⟨⟨first, hfirst⟩, ⟨last, hlast⟩, hlt, hfirst', hlast'⟩

/-- The first class of a name is the last one exactly if no other one has this name. -/
theorem IsFirstNamed.isLastNamed_iff (h : decls.IsFirstNamed name number cls) :
    decls.IsLastNamed name number cls ↔ (decls.classes.map Class.name).count name ≤ 1 := by
  rw [← not_lt, one_lt_count_iff]
  constructor
  · rintro hlast ⟨first, last, hlt, ⟨other, hother, hname⟩, another, hanother, hname'⟩
    have hle : number ≤ first :=
      not_lt.1 fun hbefore => h.ne_before first hbefore other hother hname
    exact hlast.ne_behind last (Nat.lt_of_le_of_lt hle hlt) another hanother hname'
  · refine fun hnone => ⟨h.at_number, h.name_eq, fun later hlater other hother hname => hnone ?_⟩
    exact ⟨number, later, hlater, ⟨cls, h.at_number, h.name_eq⟩, other, hother, hname⟩

/-- The class that a name stands for is the one that is found by it: the same declaration, and not
only one of the same name. -/
def LookupsAgree (decls : Declarations) (name : String) : Prop :=
  ∀ number cls, decls.classRegistry.idOf? name = some number → decls.getClass? name = some cls →
    decls.findClass name = .ok (number, cls)

/-- **The two lookups of a class by its exact name.** One goes through the registry of the classes
and gives the last class of the name, and the other goes through the classes and gives the first
one. So they give the same class exactly if the name is not declared twice. -/
theorem classLookups_exact (decls : Declarations) (name : String) :
    decls.getClass? name = decls.classRegistry.find? name ∧
    (∀ cls, decls.getClass? name = some cls → ∃ first found last,
      decls.findClass name = .ok (first, found) ∧ decls.IsFirstNamed name first found ∧
        decls.classRegistry.idOf? name = some last ∧ decls.IsLastNamed name last cls) ∧
    (decls.LookupsAgree name ↔ (decls.classes.map Class.name).count name ≤ 1) := by
  have hboth : ∀ cls, decls.getClass? name = some cls → ∃ first found last,
      decls.IsFirstNamed name first found ∧ decls.IsLastNamed name last cls := by
    intro cls hcls
    obtain ⟨last, hlast⟩ := exists_isLastNamed hcls
    obtain ⟨first, found, hfirst⟩ := exists_isFirstNamed (List.mem_of_getElem? hlast.at_number)
    exact ⟨first, found, last, hlast.name_eq ▸ hfirst, hlast⟩
  refine ⟨(find?_classRegistry decls name).symm, fun cls hcls => ?_, fun hagree => ?_,
    fun hcount number cls hid hcls => ?_⟩
  · obtain ⟨first, found, last, hfirst, hlast⟩ := hboth cls hcls
    exact ⟨first, found, last, findClass_of_isFirstNamed hfirst, hfirst,
      (isLastNamed_iff.1 hlast).1, hlast⟩
  · cases hcls : decls.getClass? name with
    | none =>
      rw [List.count_eq_zero_of_not_mem (getClass?_eq_none_iff.1 hcls)]
      exact Nat.zero_le 1
    | some cls =>
      obtain ⟨first, found, last, hfirst, hlast⟩ := hboth cls hcls
      have hfound := hagree last cls (isLastNamed_iff.1 hlast).1 hcls
      cases hfound.symm.trans (findClass_of_isFirstNamed hfirst)
      exact hfirst.isLastNamed_iff.1 hlast
  · obtain ⟨first, found, last, hfirst, -⟩ := hboth cls hcls
    obtain ⟨hid', hfound⟩ := isLastNamed_iff.1 (hfirst.isLastNamed_iff.2 hcount)
    cases hid.symm.trans hid'
    cases hcls.symm.trans hfound
    exact findClass_of_isFirstNamed hfirst

/-- A class that is declared again, with another name in Fortran, is not the one that is found. -/
theorem not_lookupsAgree :
    ¬∀ (added : List Class) (name : String) (cls : Class),
      (added.foldl addClass { name := "" }).getClass? name = some cls →
        ∃ number, (added.foldl addClass { name := "" }).findClass name = .ok (number, cls) := by
  intro h
  let older : Class := { name := "Foo", rename := some "Older" }
  let newer : Class := { name := "Foo", rename := some "Newer" }
  have hget : ([older, newer].foldl addClass { name := "" }).getClass? "Foo" = some newer := by
    decide
  have hfind : ([older, newer].foldl addClass { name := "" }).findClass "Foo" = .ok (0, older) := by
    rfl
  obtain ⟨number, hfound⟩ := h [older, newer] "Foo" newer hget
  have hsame : older = newer := congrArg Prod.snd (Except.ok.inj (hfind.symm.trans hfound))
  exact absurd hsame (by decide)

/-! ## Partial names -/

/-- The name ends with the query behind a `::`. -/
def EndsIn (query name : String) : Prop := ∃ scope : String, name = scope ++ "::" ++ query

theorem matchesPartially_iff : matchesPartially query name = true ↔ EndsIn query name := by
  rw [matchesPartially, List.isSuffixOf_iff_suffix]
  constructor
  · rintro ⟨scope, hscope⟩
    refine ⟨String.ofList scope, String.toList_inj.1 ?_⟩
    rw [String.append_assoc, String.toList_append, String.toList_ofList, hscope]
  · rintro ⟨scope, rfl⟩
    rw [String.append_assoc, String.toList_append (s := scope)]
    exact List.suffix_append _ _

/-- What a query asks for: the class of exactly this name, or else the only class whose name ends
with it. It fails if there is no such class, or if there are several. -/
inductive Answers (decls : Declarations) (query : String) : Except LookupError Class → Prop
  | named {cls : Class} (hcls : cls ∈ decls.classes) (hname : cls.name = query) :
    Answers decls query (.ok cls)
  | ending {cls : Class} (hexact : ∀ other ∈ decls.classes, other.name ≠ query)
    (hcls : cls ∈ decls.classes) (hends : EndsIn query cls.name)
    (honly : ∀ other ∈ decls.classes, EndsIn query other.name → other = cls) :
    Answers decls query (.ok cls)
  | missing (hexact : ∀ other ∈ decls.classes, other.name ≠ query)
    (hnone : ∀ other ∈ decls.classes, ¬EndsIn query other.name) :
    Answers decls query (.error (.classNotFound query))
  | ambiguous {cls other : Class} (hexact : ∀ other ∈ decls.classes, other.name ≠ query)
    (hcls : cls ∈ decls.classes) (hends : EndsIn query cls.name) (hother : other ∈ decls.classes)
    (hends' : EndsIn query other.name) (hne : cls ≠ other) :
    Answers decls query (.error .multipleMatches)

namespace Answers

variable {others : Declarations} {result result' : Except LookupError Class}

/-- A query asks for one thing only. -/
theorem unique (hnodup : (decls.classes.map Class.name).Nodup) (h : decls.Answers query result)
    (h' : decls.Answers query result') : result = result' := by
  cases h with
  | named hcls hname =>
    cases h' with
    | named hcls' hname' =>
      rw [List.inj_on_of_nodup_map hnodup hcls hcls' (hname.trans hname'.symm)]
    | ending hexact | missing hexact | ambiguous hexact => exact absurd hname (hexact _ hcls)
  | ending hexact hcls hends honly =>
    cases h' with
    | named hcls' hname' => exact absurd hname' (hexact _ hcls')
    | ending _ hcls' hends' => rw [honly _ hcls' hends']
    | missing _ hnone => exact absurd hends (hnone _ hcls)
    | ambiguous _ hcls' hends' hother hends'' hne =>
      exact absurd ((honly _ hcls' hends').trans (honly _ hother hends'').symm) hne
  | missing hexact hnone =>
    cases h' with
    | named hcls' hname' => exact absurd hname' (hexact _ hcls')
    | ending _ hcls' hends' => exact absurd hends' (hnone _ hcls')
    | missing => rfl
    | ambiguous _ hcls' hends' => exact absurd hends' (hnone _ hcls')
  | ambiguous hexact hcls hends hother hends' hne =>
    cases h' with
    | named hcls' hname' => exact absurd hname' (hexact _ hcls')
    | ending _ _ _ honly =>
      exact absurd ((honly _ hcls hends).trans (honly _ hother hends').symm) hne
    | missing _ hnone => exact absurd hends (hnone _ hcls)
    | ambiguous => rfl

/-- What a query asks for does not depend on the order of the classes. -/
theorem of_mem_iff (hmem : ∀ cls, cls ∈ decls.classes ↔ cls ∈ others.classes)
    (h : decls.Answers query result) : others.Answers query result := by
  cases h with
  | named hcls hname => exact .named ((hmem _).1 hcls) hname
  | ending hexact hcls hends honly =>
    exact .ending (fun other hother => hexact other ((hmem other).2 hother)) ((hmem _).1 hcls)
      hends fun other hother => honly other ((hmem other).2 hother)
  | missing hexact hnone =>
    exact .missing (fun other hother => hexact other ((hmem other).2 hother))
      fun other hother => hnone other ((hmem other).2 hother)
  | ambiguous hexact hcls hends hother hends' hne =>
    exact .ambiguous (fun other hother => hexact other ((hmem other).2 hother)) ((hmem _).1 hcls)
      hends ((hmem _).1 hother) hends' hne

end Answers

theorem map_fst_filter_zipIdx (decls : Declarations) (query : String) :
    (decls.classes.zipIdx.filter fun entry => matchesPartially query entry.1.name).map Prod.fst =
      decls.classes.filter fun cls => matchesPartially query cls.name := by
  have hfilter := List.filter_map (f := Prod.fst) (l := decls.classes.zipIdx)
    (p := fun cls => matchesPartially query cls.name)
  rw [List.zipIdx_map_fst] at hfilter
  exact hfilter.symm

theorem mem_filter_zipIdx (decls : Declarations) (query : String) (cls : Class) :
    cls ∈ (decls.classes.zipIdx.filter fun entry =>
        matchesPartially query entry.1.name).map Prod.fst ↔
      cls ∈ decls.classes ∧ EndsIn query cls.name := by
  rw [map_fst_filter_zipIdx, List.mem_filter, matchesPartially_iff]

/-- The class that is found stands at its number. -/
theorem getElem?_of_findClass (h : decls.findClass query = .ok (number, cls)) :
    decls.classes[number]? = some cls := by
  rw [findClass] at h
  split at h
  · next found position hfind =>
    cases h
    exact (find?_zipIdx_eq_some_iff.1 hfind).at_number
  · split at h
    · cases h
    · next found position hfilter =>
      cases h
      have hmem := List.mem_of_mem_filter (hfilter ▸ List.mem_singleton_self (cls, number))
      exact List.mk_mem_zipIdx_iff_getElem?.1 hmem
    · cases h

/-- The scan gives what the query asks for. -/
theorem answers_findClass (hnodup : (decls.classes.map Class.name).Nodup) (query : String) :
    decls.Answers query ((decls.findClass query).map Prod.snd) := by
  rw [findClass]
  split
  · next cls number hfind =>
    have hfirst := find?_zipIdx_eq_some_iff.1 hfind
    exact .named (List.mem_of_getElem? hfirst.at_number) hfirst.name_eq
  · next hnone =>
    have hexact : ∀ cls ∈ decls.classes, cls.name ≠ query := by
      intro cls hcls hname
      obtain ⟨number, found, hfirst⟩ := exists_isFirstNamed hcls
      rw [hname, ← find?_zipIdx_eq_some_iff, hnone] at hfirst
      cases hfirst
    have hmem (cls : Class) := mem_filter_zipIdx decls query cls
    have hclasses := hnodup.of_map.filter fun cls : Class => matchesPartially query cls.name
    rw [← map_fst_filter_zipIdx] at hclasses
    cases hfilter : decls.classes.zipIdx.filter fun entry =>
        matchesPartially query entry.1.name with
    | nil =>
      rw [hfilter] at hmem
      exact .missing hexact fun cls hcls hends => List.not_mem_nil ((hmem cls).2 ⟨hcls, hends⟩)
    | cons first rest =>
      rw [hfilter] at hmem hclasses
      obtain ⟨hcls, hends⟩ := (hmem first.1).1 List.mem_cons_self
      cases rest with
      | nil =>
        exact .ending hexact hcls hends fun other hother hends' =>
          List.mem_singleton.1 ((hmem other).2 ⟨hother, hends'⟩)
      | cons second rest =>
        obtain ⟨hother, hends'⟩ := (hmem second.1).1 (List.mem_cons_of_mem _ List.mem_cons_self)
        -- Two entries are two classes, as no name is declared twice.
        have hne : first.1 ≠ second.1 := fun heq =>
          (List.nodup_cons.1 hclasses).1 (heq ▸ List.mem_cons_self)
        exact .ambiguous hexact hcls hends hother hends' hne

/-- **Finding a class by its name or by the end of it.** Where no name is declared twice, a query
gives what it asks for: the class of exactly this name, or else the only class whose name ends with
it, or else the failure that says whether there is none or several. So it gives the same whatever
the order of the classes is. -/
theorem findClass_exact (hnodup : (decls.classes.map Class.name).Nodup) (query : String) :
    (∀ result, (decls.findClass query).map Prod.snd = result ↔ decls.Answers query result) ∧
    (∀ number cls, decls.findClass query = .ok (number, cls) →
      decls.classes[number]? = some cls) ∧
    ∀ others : Declarations, others.classes.Perm decls.classes →
      (others.findClass query).map Prod.snd = (decls.findClass query).map Prod.snd := by
  have hanswers := answers_findClass hnodup query
  refine ⟨fun result => ⟨fun h => h ▸ hanswers, hanswers.unique hnodup⟩,
    fun number cls => getElem?_of_findClass, fun others hperm => ?_⟩
  have hnodup' : (others.classes.map Class.name).Nodup :=
    (hperm.map Class.name).nodup_iff.2 hnodup
  have hothers := (answers_findClass hnodup' query).of_mem_iff fun cls => hperm.mem_iff
  exact hothers.unique hnodup hanswers

/-- Classes of two scopes, and one of none. -/
def scopedClasses : List Class :=
  [{ name := "left::Node" }, { name := "Node" }, { name := "left::Leaf" },
    { name := "right::Leaf" }, { name := "right::Root" }]

/-- A class of exactly this name, the only one that ends with it, several, and none. -/
theorem findClass_scopedClasses :
    let decls := scopedClasses.foldl addClass { name := "forward" }
    let others := scopedClasses.reverse.foldl addClass { name := "backward" }
    (decls.classes.map Class.name).Nodup ∧
      decls.Answers "Node" (.ok { name := "Node" }) ∧
      decls.Answers "Root" (.ok { name := "right::Root" }) ∧
      decls.Answers "Leaf" (.error .multipleMatches) ∧
      decls.Answers "Branch" (.error (.classNotFound "Branch")) ∧
      ∀ query, (others.findClass query).map Prod.snd = (decls.findClass query).map Prod.snd := by
  intro decls others
  have hnodup : (decls.classes.map Class.name).Nodup := by decide
  have hperm : others.classes.Perm decls.classes := List.reverse_perm scopedClasses
  have hexact := findClass_exact hnodup
  exact ⟨hnodup, ((hexact "Node").1 _).1 (by decide), ((hexact "Root").1 _).1 (by decide),
    ((hexact "Leaf").1 _).1 (by decide), ((hexact "Branch").1 _).1 (by decide),
    fun query => (hexact query).2.2 others hperm⟩

end FortranBindings.Declarations
