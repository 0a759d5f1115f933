import FortranBindings.Proofs.Template.EnumFallback
import FortranBindings.Proofs.TypemapTable.VisitingOrder

/-!
# Tables laid over each other

Laying a table over another one merges them at the level of single entries: a lookup finds what the
upper table has, and else what the lower one has (`TypemapTable.lookup_overlay`). So it does not
matter in which order three tables are put together (`TypemapTable.overlay_assoc`), and laying the
same table over a second time changes nothing (`TypemapTable.overlay_overlay_self`).

An entry of the upper table is found first, whatever the lower table has for the type
(`TypemapTable.overlay_exact`).
-/

namespace FortranBindings

namespace Dict

variable {α : Type}

/-- What is entered from ordered pairs counts. -/
theorem find?_insertMany (dict : Dict α) {pairs : List (String × α)}
    (h : pairs.Pairwise (·.1 < ·.1)) (name : String) :
    (dict.insertMany pairs).find? name = (pairs.lookup name).or (dict.find? name) := by
  induction pairs generalizing dict with
  | nil => rfl
  | cons pair pairs ih =>
    obtain ⟨hpair, hpairs⟩ := List.pairwise_cons.1 h
    refine (ih (dict.insert pair.1 pair.2) hpairs).trans ?_
    rw [find?_insert, lookup_cons_eq_ite]
    by_cases hname : name = pair.1
    · subst hname
      rw [lookup_eq_none_of_lt hpair, if_pos rfl, if_pos rfl]
      rfl
    · rw [if_neg hname, if_neg hname]

/-- The upper dictionary counts. -/
theorem find?_union (dict upper : Dict α) (name : String) :
    (dict.union upper).find? name = (upper.find? name).or (dict.find? name) :=
  find?_insertMany dict upper.ordered name

theorem union_assoc (dict middle upper : Dict α) :
    (dict.union middle).union upper = dict.union (middle.union upper) :=
  ext_find? fun name => by simp only [find?_union, Option.or_assoc]

theorem union_self (dict upper : Dict α) : (dict.union upper).union upper = dict.union upper :=
  ext_find? fun name => by
    rw [find?_union, find?_union, ← Option.or_assoc, Option.or_self]

theorem lookup_map_entries {β : Type} (f : String → α → β) (pairs : List (String × α))
    (name : String) : (pairs.map fun pair => (pair.1, f pair.1 pair.2)).lookup name =
      (pairs.lookup name).map (f name) := by
  induction pairs with
  | nil => rfl
  | cons pair pairs ih =>
    rw [List.map_cons, lookup_cons_eq_ite, lookup_cons_eq_ite, ih]
    by_cases h : name = pair.1
    · subst h
      rw [if_pos rfl, if_pos rfl, Option.map_some]
    · rw [if_neg h, if_neg h]

end Dict

namespace TypemapTable

variable {table upper : TypemapTable} {operation signature : String} {typemap : Typemap}

/-! ## Laws -/

/-- Of each operation that the upper table has, the entries are put together. -/
theorem find?_overlay (table upper : TypemapTable) (operation : String) :
    (table.overlay upper).operations.find? operation =
      ((upper.operations.find? operation).map (table.ofOperation operation).union).or
        (table.operations.find? operation) := by
  have hordered : (upper.operations.entries.map fun entry =>
      (entry.1, (table.ofOperation entry.1).union entry.2)).Pairwise (·.1 < ·.1) :=
    List.pairwise_map.2 upper.operations.ordered
  rw [overlay, Dict.find?_insertMany _ hordered,
    Dict.lookup_map_entries fun operation typemaps => (table.ofOperation operation).union typemaps]
  rfl

theorem ofOperation_of_find? {typemaps? : Option (Dict Typemap)}
    (h : table.operations.find? operation = typemaps?) :
    table.ofOperation operation = typemaps?.getD {} := by
  rw [ofOperation, h]

theorem ofOperation_overlay (table upper : TypemapTable) (operation : String) :
    (table.overlay upper).ofOperation operation =
      (table.ofOperation operation).union (upper.ofOperation operation) := by
  rw [ofOperation, find?_overlay]
  cases h : upper.operations.find? operation with
  | none => rw [ofOperation_of_find? h]; rfl
  | some typemaps => rw [ofOperation_of_find? h]; rfl

theorem lookup_eq_find?_ofOperation (table : TypemapTable) (operation signature : String) :
    table.lookup operation signature = (table.ofOperation operation).find? signature := by
  rw [lookup, ofOperation]
  cases table.operations.find? operation <;> rfl

/-- **The upper table counts**, entry by entry. -/
theorem lookup_overlay (table upper : TypemapTable) (operation signature : String) :
    (table.overlay upper).lookup operation signature =
      (upper.lookup operation signature).or (table.lookup operation signature) := by
  simp only [lookup_eq_find?_ofOperation, ofOperation_overlay, Dict.find?_union]

theorem ext_find? {other : TypemapTable}
    (h : ∀ operation, table.operations.find? operation = other.operations.find? operation) :
    table = other :=
  congrArg mk (Dict.ext_find? h)

theorem overlay_assoc (table middle upper : TypemapTable) :
    (table.overlay middle).overlay upper = table.overlay (middle.overlay upper) := by
  refine ext_find? fun operation => ?_
  simp only [find?_overlay, ofOperation_overlay]
  cases upper.operations.find? operation with
  | none => rfl
  | some typemaps => exact congrArg some (Dict.union_assoc _ _ _)

theorem overlay_overlay_self (table upper : TypemapTable) :
    (table.overlay upper).overlay upper = table.overlay upper := by
  refine ext_find? fun operation => ?_
  rw [find?_overlay, find?_overlay, ofOperation_overlay]
  cases h : upper.operations.find? operation with
  | none => rfl
  | some typemaps =>
    rw [ofOperation_of_find? h]
    exact congrArg some (Dict.union_self _ _)

/-! ## Entries that count -/

/-- What is entered for a type under whatever spelling is there if nothing is entered for the type
behind it. -/
theorem lookup_of_foldlM {own user : TypemapTable} {before after : List TypemapEntry}
    {entry : TypemapEntry} {type : CxxType} (htype : CxxType.ofSpelling entry.spelling = .ok type)
    (hlast : ∀ later ∈ after, later.operation = entry.operation →
      CxxType.ofSpelling later.spelling ≠ .ok type)
    (huser : (before ++ entry :: after).foldlM insertEntry own = .ok user) :
    user.lookup entry.operation type.signature = some entry.typemap := by
  have hnone : after.reverse.findSome? (·.typemap? entry.operation type.signature) = none := by
    refine List.findSome?_eq_none_iff.2 fun later hlater => ?_
    rw [← Option.not_isSome_iff_eq_none, Option.isSome_iff_exists]
    rintro ⟨typemap, hsome⟩
    obtain ⟨other, hother, hoperation, hsignature, -⟩ := TypemapEntry.typemap?_eq_some.1 hsome
    -- Both types are those of spellings, so that their signature tells that they are one type.
    obtain rfl : type = other :=
      CxxType.IsSpelled.eq_of_signature_eq ⟨_, htype⟩ ⟨_, hother⟩ hsignature
    exact hlast later (List.mem_reverse.1 hlater) hoperation.symm hother
  rw [List.foldlM_append] at huser
  obtain ⟨earlier, -, huser⟩ := Except.bind_eq_ok.1 huser
  rw [List.foldlM_cons] at huser
  obtain ⟨entered, hentered, huser⟩ := Except.bind_eq_ok.1 huser
  have hfound : entered.lookup entry.operation type.signature = some entry.typemap := by
    rw [lookup_insertEntry hentered, TypemapEntry.typemap?_eq_some.2 ⟨type, htype, rfl, rfl, rfl⟩]
    rfl
  have hseen := map_lookup_foldlM after entered
  rw [huser, seen] at hseen
  split at hseen
  · cases hseen
  · have hlookup := congrFun (congrFun (Except.ok.inj hseen) entry.operation) type.signature
    dsimp only at hlookup
    rw [hlookup, hnone, hfound]
    rfl

end TypemapTable

namespace Lookup

variable {sources : Sources} {operation : String} {type : CxxType} {typemap : Typemap}

/-- What the store has for a type itself is found first, also after other lookups. These may have
been for another type with the same signature, whose class name the answer then has. -/
theorem find_of_store (h : sources.store operation type.signature = some typemap)
    (history : List Request) (need : Need) (location : Location) :
    ∃ other : CxxType, other.signature = type.signature ∧
      (other = type ∨ other ∈ history.map Request.type) ∧
      ((history.mapM (find sources) >>= fun _ =>
        find sources { operation, type, need, location }).run {}).1 =
          some (named sources other typemap) := by
  let isFound (found : Typemap) : Prop := ∃ other : CxxType, other.signature = type.signature ∧
    (other = type ∨ other ∈ history.map Request.type) ∧ named sources other typemap = found
  have hkey (request : Request) (hmem : request.type = type ∨
      request.type ∈ history.map Request.type) :
      IsKeptUnder operation type.signature request → ∃ found,
        sources.search? request.operations request.type = some found ∧
          isFound (named sources request.type found) := by
    rintro ⟨-, hoperation, hsignature⟩
    refine ⟨typemap, search?_of_findSome?_signatures ?_, request.type, hsignature, hmem, rfl⟩
    rw [Sources.signatures, List.cons_append, List.map_cons, List.findSome?_cons, hoperation,
      hsignature, h]
  have hrun := (Ensures.mapM fun earlier hmem =>
    find_keepsAmong (hkey earlier (.inr (List.mem_map_of_mem hmem)))).bind fun _ _ =>
      find_keepsAmong (hkey { operation, type, need, location } (.inl rfl))
  obtain ⟨found, ⟨other, hsignature, hother, rfl⟩, hfound⟩ :=
    (hrun {} (LookupState.keepsAmong_empty _ _ _)).1 ⟨rfl, rfl, rfl⟩
  exact ⟨other, hsignature, hother, hfound⟩

end Lookup

namespace TypemapTable

open Lookup in
/-- **Overlaying is a merge in which the upper table counts.** A lookup finds the entry of the upper
table if it has one, and else that of the lower one. Three tables are put together in either order,
and laying a table over a second time changes nothing. An entry that was made under any spelling of
a type, and that nothing was entered over, is what is found for this type, whatever the lower table
has and whatever was looked up before. -/
theorem overlay_exact (base middle upper : TypemapTable) :
    (∀ operation signature, (base.overlay upper).lookup operation signature =
      (upper.lookup operation signature).or (base.lookup operation signature)) ∧
    (base.overlay middle).overlay upper = base.overlay (middle.overlay upper) ∧
    (base.overlay upper).overlay upper = base.overlay upper ∧
    ∀ (own user : TypemapTable) (before after : List TypemapEntry) (entry : TypemapEntry)
      (type : CxxType), CxxType.ofSpelling entry.spelling = .ok type →
      (before ++ entry :: after).foldlM insertEntry own = .ok user →
      (∀ later ∈ after, later.operation = entry.operation →
        CxxType.ofSpelling later.spelling ≠ .ok type) →
      ∀ (decls : Declarations) (history : List Request) (need : Need) (location : Location),
        let sources : Sources := ⟨decls, (base.overlay user).lookup⟩
        let answer := ((history.mapM (find sources) >>= fun _ => find sources
          { operation := entry.operation, type, need, location }).run {}).1
        (∃ other, other.signature = type.signature ∧
          (other = type ∨ other ∈ history.map Request.type) ∧
          answer = some (named sources other entry.typemap)) ∧
        ((∀ earlier ∈ history, earlier.type.IsSpelled) →
          answer = some (named sources type entry.typemap)) := by
  refine ⟨lookup_overlay base upper, overlay_assoc base middle upper,
    overlay_overlay_self base upper, fun own user before after entry type htype huser hlast decls
      history need location => ?_⟩
  intro sources answer
  have hstore : sources.store entry.operation type.signature = some entry.typemap := by
    refine (lookup_overlay base user _ _).trans ?_
    rw [lookup_of_foldlM htype hlast huser]
    rfl
  obtain ⟨other, hsignature, hother, hanswer⟩ := find_of_store hstore history need location
  refine ⟨⟨other, hsignature, hother, hanswer⟩, fun hspelled => ?_⟩
  have hspelled' : other.IsSpelled := by
    rcases hother with rfl | hmem
    · exact ⟨_, htype⟩
    · obtain ⟨earlier, hearlier, rfl⟩ := List.mem_map.1 hmem
      exact hspelled earlier hearlier
  rw [← CxxType.IsSpelled.eq_of_signature_eq hspelled' ⟨_, htype⟩ hsignature]
  exact hanswer

/-- Entries for `int` under two spellings of it, and for another operation. -/
def integerEntries : List TypemapEntry :=
  [⟨"ctype", "int", { code := "old_int" }⟩, ⟨"ctype", "signed int", { code := "my_int" }⟩,
    ⟨"ftype", "int", { code := "integer" }⟩]

/-- A request for `int`. -/
def integerRequest (operation : String) : Request :=
  { operation, type := .builtin .int, need := .required, location := {} }

open Lookup in
/-- The last entry counts, over the built-in table and after a lookup of another operation. -/
theorem overlay_exact_integerEntries :
    ∃ user, integerEntries.foldlM insertEntry {} = .ok user ∧
      let sources : Sources := ⟨{ name := "" }, (fortran.overlay user).lookup⟩
      (([integerRequest "ftype"].mapM (find sources) >>= fun _ =>
        find sources (integerRequest "ctype")).run {}).1 = some { code := "my_int" } := by
  have htype : CxxType.ofSpelling "signed int" = .ok (.builtin .int) := by decide +kernel
  obtain ⟨user, huser⟩ := Except.exists_of_isOk
    (show (integerEntries.foldlM insertEntry {}).isOk by decide +kernel)
  have hlast : ∀ later ∈ integerEntries.drop 2, later.operation = "ctype" →
      CxxType.ofSpelling later.spelling ≠ .ok (.builtin .int) := by
    decide
  have hspelled : ∀ earlier ∈ [integerRequest "ftype"], earlier.type.IsSpelled := by
    intro earlier hearlier
    rw [List.mem_singleton.1 hearlier]
    exact ⟨_, htype⟩
  obtain ⟨-, hanswer⟩ := (overlay_exact fortran {} {}).2.2.2 {} user (integerEntries.take 1)
    (integerEntries.drop 2) ⟨"ctype", "signed int", { code := "my_int" }⟩ _ htype huser hlast
    { name := "" } [integerRequest "ftype"] .required {}
  refine ⟨user, huser, (hanswer hspelled).trans ?_⟩
  have hplain : ¬Text.mentions "my_int" classToken = true := by decide
  exact congrArg some (if_neg hplain)

end TypemapTable

end FortranBindings
