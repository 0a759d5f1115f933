/-!
# Dictionaries

A dictionary is a finite map from names to values, kept as pairs in strictly increasing order of
their names. `find?_insert` says what an insertion does to a lookup, and `ext_find?` that a
dictionary is determined by its lookups, so that the order of the insertions cannot matter. The
pairs of a dictionary make that dictionary again (`ofList_entries`).
-/

namespace FortranBindings

/-- A finite map from names to values, in increasing order of the names. -/
structure Dict (α : Type) where
  /-- The pairs, in increasing order of their names. -/
  entries : List (String × α)
  /-- No name is held twice, and the names are in order. -/
  ordered : entries.Pairwise (·.1 < ·.1) := by simp

namespace Dict

variable {α β : Type}

/-- Put a pair into an ordered list; a pair of that name gives way. -/
def insertPair (name : String) (value : α) : List (String × α) → List (String × α)
  | [] => [(name, value)]
  | (n, v) :: rest =>
    if name < n then (name, value) :: (n, v) :: rest
    else if name = n then (name, value) :: rest
    else (n, v) :: insertPair name value rest

theorem mem_insertPair {name : String} {value : α} {pairs : List (String × α)}
    {pair : String × α} (h : pair ∈ insertPair name value pairs) :
    pair = (name, value) ∨ pair ∈ pairs := by
  induction pairs with
  | nil => simpa [insertPair] using h
  | cons head rest ih =>
    obtain ⟨n, v⟩ := head
    rw [insertPair] at h
    split at h
    · simpa using h
    · split at h
      · exact (List.mem_cons.1 h).imp id (List.mem_cons_of_mem _)
      · rcases List.mem_cons.1 h with rfl | h
        · simp
        · exact (ih h).imp id (List.mem_cons_of_mem _)

theorem pairwise_insertPair (name : String) (value : α) {pairs : List (String × α)}
    (h : pairs.Pairwise (·.1 < ·.1)) : (insertPair name value pairs).Pairwise (·.1 < ·.1) := by
  induction pairs with
  | nil => simp [insertPair]
  | cons head rest ih =>
    obtain ⟨n, v⟩ := head
    obtain ⟨hn, hr⟩ := List.pairwise_cons.1 h
    rw [insertPair]
    split
    · next hlt =>
      refine List.pairwise_cons.2 ⟨fun pair hp => ?_, h⟩
      rcases List.mem_cons.1 hp with rfl | hp
      · exact hlt
      · exact String.lt_trans hlt (hn pair hp)
    · next hlt =>
      split
      · next heq =>
        subst heq
        exact List.pairwise_cons.2 ⟨hn, hr⟩
      · next hne =>
        refine List.pairwise_cons.2 ⟨fun pair hp => ?_, ih hr⟩
        rcases mem_insertPair hp with rfl | hp
        · exact Std.lt_of_le_of_ne (Std.not_lt.1 hlt) (Ne.symm hne)
        · exact hn pair hp

/-- The dictionary without names. -/
def empty : Dict α where
  entries := []

instance : EmptyCollection (Dict α) := ⟨empty⟩

instance : Inhabited (Dict α) := ⟨empty⟩

/-- The value of a name. -/
def find? (dict : Dict α) (name : String) : Option α :=
  dict.entries.lookup name

/-- Give a name a value, in place of any value it had. -/
def insert (dict : Dict α) (name : String) (value : α) : Dict α where
  entries := insertPair name value dict.entries
  ordered := pairwise_insertPair name value dict.ordered

/-- Does the name have a value? -/
def contains (dict : Dict α) (name : String) : Bool :=
  (dict.find? name).isSome

/-- The number of names. -/
def size (dict : Dict α) : Nat :=
  dict.entries.length

/-- Give names values one after the other. -/
def insertMany (dict : Dict α) (pairs : List (String × α)) : Dict α :=
  pairs.foldl (fun d pair => d.insert pair.1 pair.2) dict

/-- The dictionary of some pairs; of several pairs of one name the last one counts. -/
def ofList (pairs : List (String × α)) : Dict α :=
  insertMany empty pairs

/-- The first dictionary overlaid with the second, whose values win. -/
def union (dict upper : Dict α) : Dict α :=
  dict.insertMany upper.entries

theorem ext {dict other : Dict α} (h : dict.entries = other.entries) : dict = other := by
  cases dict
  cases other
  cases h
  rfl

instance [DecidableEq α] : DecidableEq (Dict α) := fun dict other =>
  decidable_of_iff (dict.entries = other.entries) ⟨ext, fun h => h ▸ rfl⟩

@[simp] theorem find?_empty (name : String) : (empty : Dict α).find? name = none := rfl

theorem lookup_cons_eq_ite (name n : String) (v : α) (rest : List (String × α)) :
    ((n, v) :: rest).lookup name = if name = n then some v else rest.lookup name := by
  by_cases h : name = n
  · simp [h]
  · rw [List.lookup_cons, beq_false_of_ne h, if_neg h]

theorem lookup_insertPair (name other : String) (value : α) (pairs : List (String × α)) :
    (insertPair name value pairs).lookup other =
      if other = name then some value else pairs.lookup other := by
  induction pairs with
  | nil => simp only [insertPair, lookup_cons_eq_ite, List.lookup_nil]
  | cons head rest ih =>
    obtain ⟨n, v⟩ := head
    rw [insertPair]
    split
    · simp only [lookup_cons_eq_ite]
    · split
      · next heq =>
        subst heq
        simp only [lookup_cons_eq_ite]
        split <;> rfl
      · next hne =>
        simp only [lookup_cons_eq_ite, ih]
        by_cases h : other = n
        · subst h
          rw [if_pos rfl, if_pos rfl, if_neg (Ne.symm hne)]
        · rw [if_neg h, if_neg h]

/-- An insertion changes the lookup of its own name only. -/
theorem find?_insert (dict : Dict α) (name other : String) (value : α) :
    (dict.insert name value).find? other = if other = name then some value else dict.find? other :=
  lookup_insertPair name other value dict.entries

theorem lookup_eq_none_of_lt {name : String} {pairs : List (String × α)}
    (h : ∀ pair ∈ pairs, name < pair.1) : pairs.lookup name = none := by
  induction pairs with
  | nil => rfl
  | cons head rest ih =>
    obtain ⟨n, v⟩ := head
    have hn : name ≠ n := fun e => String.lt_irrefl n (e ▸ h (n, v) List.mem_cons_self)
    rw [lookup_cons_eq_ite, if_neg hn, ih fun pair hp => h pair (List.mem_cons_of_mem _ hp)]

theorem eq_of_lookup_eq {pairs others : List (String × α)} (hp : pairs.Pairwise (·.1 < ·.1))
    (ho : others.Pairwise (·.1 < ·.1)) (h : ∀ name, pairs.lookup name = others.lookup name) :
    pairs = others := by
  induction pairs generalizing others with
  | nil =>
    cases others with
    | nil => rfl
    | cons head rest =>
      obtain ⟨n, v⟩ := head
      simpa [lookup_cons_eq_ite] using h n
  | cons head rest ih =>
    obtain ⟨n, v⟩ := head
    cases others with
    | nil => simpa [lookup_cons_eq_ite] using h n
    | cons head' rest' =>
      obtain ⟨n', v'⟩ := head'
      obtain ⟨hn, hr⟩ := List.pairwise_cons.1 hp
      obtain ⟨hn', hr'⟩ := List.pairwise_cons.1 ho
      have hle : n = n' := by
        rcases Std.lt_trichotomy n n' with hlt | rfl | hlt
        · have := h n
          rw [lookup_cons_eq_ite, if_pos rfl, lookup_eq_none_of_lt] at this
          · cases this
          · intro pair hm
            rcases List.mem_cons.1 hm with rfl | hm
            · exact hlt
            · exact String.lt_trans hlt (hn' pair hm)
        · rfl
        · have := h n'
          rw [lookup_cons_eq_ite n' n', if_pos rfl, lookup_eq_none_of_lt] at this
          · cases this
          · intro pair hm
            rcases List.mem_cons.1 hm with rfl | hm
            · exact hlt
            · exact String.lt_trans hlt (hn pair hm)
      subst hle
      have hv : v = v' := by simpa [lookup_cons_eq_ite] using h n
      subst hv
      refine congrArg _ (ih hr hr' fun name => ?_)
      by_cases hname : name = n
      · rw [hname, lookup_eq_none_of_lt hn, lookup_eq_none_of_lt hn']
      · simpa [lookup_cons_eq_ite, hname] using h name

/-- A dictionary is determined by its lookups. -/
theorem ext_find? {dict other : Dict α} (h : ∀ name, dict.find? name = other.find? name) :
    dict = other :=
  ext (eq_of_lookup_eq dict.ordered other.ordered h)

/-- A pair whose name comes behind all others is put at the end. -/
theorem insertPair_of_lt {name : String} {value : α} {pairs : List (String × α)}
    (h : ∀ pair ∈ pairs, pair.1 < name) :
    insertPair name value pairs = pairs ++ [(name, value)] := by
  induction pairs with
  | nil => rfl
  | cons pair pairs ih =>
    obtain ⟨hpair, hrest⟩ := List.forall_mem_cons.1 h
    have hnot : ¬name < pair.1 := fun hlt => String.lt_irrefl _ (String.lt_trans hpair hlt)
    have hne : name ≠ pair.1 := fun heq => String.lt_irrefl _ (heq ▸ hpair)
    rw [insertPair, if_neg hnot, if_neg hne, ih hrest, List.cons_append]

theorem entries_insertMany {dict : Dict α} {pairs : List (String × α)}
    (h : (dict.entries ++ pairs).Pairwise (·.1 < ·.1)) :
    (dict.insertMany pairs).entries = dict.entries ++ pairs := by
  induction pairs generalizing dict with
  | nil => exact (List.append_nil _).symm
  | cons pair pairs ih =>
    have hinsert : (dict.insert pair.1 pair.2).entries = dict.entries ++ [pair] :=
      insertPair_of_lt fun other hother =>
        (List.pairwise_append.1 h).2.2 other hother pair List.mem_cons_self
    rw [List.append_cons, ← hinsert] at h ⊢
    exact ih h

/-- Inserting the pairs of a dictionary makes the dictionary. -/
theorem ofList_entries (dict : Dict α) : ofList dict.entries = dict :=
  ext (entries_insertMany dict.ordered)

end Dict

end FortranBindings
