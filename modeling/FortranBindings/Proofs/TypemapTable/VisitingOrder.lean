import Mathlib.Data.List.Forall2
import Mathlib.Data.List.Perm.Basic
import FortranBindings.Proofs.CxxType.Signature
import FortranBindings.Proofs.TypemapTable.Library
import FortranBindings.TypemapTable.Document

/-!
# The order in which a document of typemaps is visited

The operations of a document, and the spellings of each, are maps, whose entries may be visited in
any order. What the table has under a signature is the last entry for it that is visited, and a
document is refused for the first spelling that names no type (`TypemapTable.map_lookup_ofVisit`).
So the order does not show exactly if the document is unambiguous: at most one spelling is refused,
and otherwise the spellings of one type under one operation have one typemap
(`TypemapTable.loads_agree_iff`).
-/

namespace FortranBindings

theorem CxxType.spelling_of_ofSpelling {spelling : String} {error : SpellingError}
    (h : ofSpelling spelling = .error error) : error.spelling = spelling := by
  unfold ofSpelling at h
  cases hchars : ofChars spelling.toList with
  | ok type =>
    rw [hchars] at h
    cases h
  | error fault =>
    rw [hchars] at h
    cases h
    rfl

/-- What is found first in a list does not depend on its order if there is one thing to find. -/
theorem findSome?_eq_of_perm {α β : Type} {f : α → Option β} {xs ys : List α} (h : xs.Perm ys)
    (hf : ∀ a ∈ xs, ∀ b ∈ xs, ∀ x y, f a = some x → f b = some y → x = y) :
    xs.findSome? f = ys.findSome? f := by
  cases hys : ys.findSome? f with
  | none =>
    rw [List.findSome?_eq_none_iff] at hys ⊢
    exact fun a ha => hys a (h.mem_iff.1 ha)
  | some y =>
    obtain ⟨b, hb, hy⟩ := List.exists_of_findSome?_eq_some hys
    have hb := h.mem_iff.2 hb
    have hsome : (xs.findSome? f).isSome := by
      rw [List.findSome?_isSome_iff]
      exact ⟨b, hb, by rw [hy]; rfl⟩
    obtain ⟨x, hx⟩ := Option.isSome_iff_exists.1 hsome
    obtain ⟨a, ha, hxa⟩ := List.exists_of_findSome?_eq_some hx
    rw [hx, hf a ha b hb x y hxa hy]

/-- An entry of a document of typemaps. -/
structure TypemapEntry where
  operation : String
  spelling : String
  typemap : Typemap

namespace TypemapEntry

/-- Why the entry is refused, if its spelling names no type. -/
def refusal? (entry : TypemapEntry) : Option CxxType.SpellingError :=
  match CxxType.ofSpelling entry.spelling with
  | .ok _ => none
  | .error error => some error

/-- What the entry has for an operation and a signature. -/
def typemap? (entry : TypemapEntry) (operation signature : String) : Option Typemap :=
  match CxxType.ofSpelling entry.spelling with
  | .ok type =>
    if operation = entry.operation ∧ signature = type.signature then some entry.typemap else none
  | .error _ => none

theorem refusal?_eq_none {entry : TypemapEntry} :
    entry.refusal? = none ↔ ∃ type, CxxType.ofSpelling entry.spelling = .ok type := by
  unfold refusal?
  cases CxxType.ofSpelling entry.spelling <;> simp

theorem spelling_of_refusal? {entry : TypemapEntry} {error : CxxType.SpellingError}
    (h : entry.refusal? = some error) : error.spelling = entry.spelling := by
  unfold refusal? at h
  split at h
  · cases h
  · next hspelling =>
    cases h
    exact CxxType.spelling_of_ofSpelling hspelling

theorem typemap?_eq_some {entry : TypemapEntry} {operation signature : String}
    {typemap : Typemap} : entry.typemap? operation signature = some typemap ↔
      ∃ type, CxxType.ofSpelling entry.spelling = .ok type ∧ operation = entry.operation ∧
        signature = type.signature ∧ entry.typemap = typemap := by
  unfold typemap?
  cases CxxType.ofSpelling entry.spelling <;> simp [and_assoc]

end TypemapEntry

namespace TypemapTable

/-- The operations of a document in the order they are visited in, each with its spellings and their
typemaps in such an order. -/
abbrev Visit := List (String × List (String × Typemap))

/-- The entries in the order they are visited in. -/
def Visit.entries (visit : Visit) : List TypemapEntry :=
  visit.flatMap fun operation => operation.2.map fun entry => ⟨operation.1, entry.1, entry.2⟩

/-- The visit in the order of the names. -/
def inOrder (operations : Dict (Dict Typemap)) : Visit :=
  operations.entries.map fun operation => (operation.1, operation.2.entries)

/-- Each operation is visited once, and of each operation every entry. -/
def IsVisitOf (operations : Dict (Dict Typemap)) (visit : Visit) : Prop :=
  ∃ order, order.Perm (inOrder operations) ∧
    List.Forall₂ (fun operation visited => operation.1 = visited.1 ∧ visited.2.Perm operation.2)
      order visit

/-- Enter a typemap under its spelling. -/
def insertEntry (table : TypemapTable) (entry : TypemapEntry) :
    Except CxxType.SpellingError TypemapTable :=
  (CxxType.ofSpelling entry.spelling).map (table.insert entry.operation · entry.typemap)

/-- The table that comes of a visit. -/
def ofVisit (visit : Visit) : Except CxxType.SpellingError TypemapTable :=
  visit.foldlM (fun table operation =>
    operation.2.foldlM (fun table entry => table.insertEntry ⟨operation.1, entry.1, entry.2⟩)
      table) {}

/-- Read a table, with the operations and spellings visited in some order. -/
def ofDocumentIn (order : Dict (Dict Typemap) → Visit) (document : Json.Document) :
    Except TypemapsError TypemapTable := do
  let operations ← (document.decode (Json.asDict (Json.asDict Typemap.ofJson))).mapError .document
  (ofVisit (order operations)).mapError .spelling

theorem ofSpellings_eq_ofVisit (operations : Dict (Dict Typemap)) :
    ofSpellings operations = ofVisit (inOrder operations) := by
  rw [ofVisit, inOrder, List.foldlM_map]
  rfl

/-- A document is read in the order of the names. -/
theorem ofDocument_eq (document : Json.Document) :
    ofDocument document = ofDocumentIn inOrder document := by
  unfold ofDocument ofDocumentIn
  simp only [ofSpellings_eq_ofVisit]

/-! ## What comes of a visit -/

theorem ofVisit_eq_foldlM (visit : Visit) :
    ofVisit visit = visit.entries.foldlM insertEntry {} := by
  unfold ofVisit
  generalize ({} : TypemapTable) = table
  induction visit generalizing table with
  | nil => rfl
  | cons operation visit ih =>
    have hentries : Visit.entries (operation :: visit) =
        operation.2.map (fun entry => ⟨operation.1, entry.1, entry.2⟩) ++ Visit.entries visit := rfl
    rw [hentries, List.foldlM_cons, List.foldlM_append, List.foldlM_map]
    exact bind_congr fun table => ih table

/-- What is seen of the table that comes of entries: for what it is refused, or all lookups. -/
def seen (entries : List TypemapEntry) :
    Except CxxType.SpellingError (String → String → Option Typemap) :=
  match entries.findSome? TypemapEntry.refusal? with
  | some error => .error error
  | none => .ok fun operation signature =>
    entries.reverse.findSome? (·.typemap? operation signature)

theorem lookup_insertEntry {table next : TypemapTable} {entry : TypemapEntry}
    (h : table.insertEntry entry = .ok next) (operation signature : String) :
    next.lookup operation signature =
      (entry.typemap? operation signature).or (table.lookup operation signature) := by
  obtain ⟨type, htype, rfl⟩ := Except.map_eq_ok.1 h
  rw [lookup_insert, TypemapEntry.typemap?, htype]
  dsimp only
  split <;> rfl

theorem map_lookup_foldlM (entries : List TypemapEntry) (table : TypemapTable) :
    (entries.foldlM insertEntry table).map lookup =
      (seen entries).map fun found operation signature =>
        (found operation signature).or (table.lookup operation signature) := by
  induction entries generalizing table with
  | nil => rfl
  | cons entry entries ih =>
    rw [List.foldlM_cons, seen, List.findSome?_cons]
    cases hspelling : CxxType.ofSpelling entry.spelling with
    | error error =>
      have hrefusal : entry.refusal? = some error := by rw [TypemapEntry.refusal?, hspelling]
      have hfailed : table.insertEntry entry = .error error := by rw [insertEntry, hspelling]; rfl
      rw [hrefusal, hfailed]
      rfl
    | ok type =>
      have hnone : entry.refusal? = none := TypemapEntry.refusal?_eq_none.2 ⟨type, hspelling⟩
      have hinsert : table.insertEntry entry =
          .ok (table.insert entry.operation type entry.typemap) := by
        rw [insertEntry, hspelling]; rfl
      rw [hnone, hinsert]
      refine (ih _).trans ?_
      rw [seen]
      cases entries.findSome? TypemapEntry.refusal? with
      | some error => rfl
      | none =>
        -- The entry counts where no entry behind it has something.
        refine congrArg Except.ok (funext fun operation => funext fun signature => ?_)
        dsimp only
        rw [lookup_insertEntry hinsert, List.reverse_cons, List.findSome?_append,
          List.findSome?_cons, List.findSome?_nil, Option.or_assoc]
        cases entry.typemap? operation signature <;> rfl

/-- **What comes of a visit**: it is refused for the first spelling that is, and otherwise the last
entry counts. -/
theorem map_lookup_ofVisit (visit : Visit) : (ofVisit visit).map lookup = seen visit.entries := by
  rw [ofVisit_eq_foldlM, map_lookup_foldlM]
  cases seen visit.entries with
  | error error => rfl
  | ok found =>
    refine congrArg Except.ok (funext fun operation => funext fun signature => ?_)
    exact Option.or_none

/-! ## Visits of the same operations -/

variable {operations : Dict (Dict Typemap)} {visit visit' : Visit}

theorem isVisitOf_inOrder (operations : Dict (Dict Typemap)) :
    IsVisitOf operations (inOrder operations) :=
  ⟨_, .refl _, List.forall₂_same.2 fun _ _ => ⟨rfl, .refl _⟩⟩

theorem perm_entries_of_perm {order visit : Visit} (h : order.Perm visit) :
    order.entries.Perm visit.entries :=
  h.flatMap_right _

/-- A visit comes to all entries. -/
theorem IsVisitOf.perm (h : IsVisitOf operations visit) :
    visit.entries.Perm (inOrder operations).entries := by
  obtain ⟨order, horder, hvisit⟩ := h
  refine List.Perm.trans ?_ (perm_entries_of_perm horder)
  clear horder
  induction hvisit with
  | nil => exact .refl _
  | @cons operation visited order visit hhead _ ih =>
    obtain ⟨hname, hperm⟩ := hhead
    refine List.Perm.append ?_ ih
    dsimp only
    rw [hname]
    exact hperm.map _

/-- The visit from its end to its start. -/
def Visit.backwards (visit : Visit) : Visit :=
  (visit.map fun operation => (operation.1, operation.2.reverse)).reverse

/-- A visit backwards is a visit. -/
theorem IsVisitOf.backwards (h : IsVisitOf operations visit) :
    IsVisitOf operations visit.backwards := by
  obtain ⟨order, horder, hvisit⟩ := h
  refine ⟨order.reverse, order.reverse_perm.trans horder, ?_⟩
  rw [Visit.backwards, List.forall₂_reverse_iff, List.forall₂_map_right_iff]
  exact hvisit.imp fun _ visited ⟨hname, hperm⟩ => ⟨hname, visited.2.reverse_perm.trans hperm⟩

theorem entries_backwards (visit : Visit) : visit.backwards.entries = visit.entries.reverse := by
  unfold Visit.entries
  rw [List.reverse_flatMap, List.flatMap_def, Visit.backwards, List.map_reverse, List.map_map]
  simp [List.flatMap_def, Function.comp_def]

/-- Every entry comes first in some visit. -/
theorem exists_visit_cons {entry : TypemapEntry} (h : entry ∈ (inOrder operations).entries) :
    ∃ visit rest, IsVisitOf operations visit ∧ visit.entries = entry :: rest := by
  obtain ⟨operation, hoperation, hentry⟩ := List.mem_flatMap.1 h
  obtain ⟨pair, hpair, rfl⟩ := List.mem_map.1 hentry
  obtain ⟨before, after, horder⟩ := List.append_of_mem hoperation
  obtain ⟨front, back, hpairs⟩ := List.append_of_mem hpair
  refine ⟨(operation.1, pair :: (front ++ back)) :: (before ++ after), _,
    ⟨operation :: (before ++ after), ?_, .cons ⟨rfl, ?_⟩ ?_⟩, rfl⟩
  · rw [horder]
    exact List.perm_middle.symm
  · rw [hpairs]
    exact List.perm_middle.symm
  · exact List.forall₂_same.2 fun _ _ => ⟨rfl, .refl _⟩

/-- Every entry comes last in some visit. -/
theorem exists_visit_concat {entry : TypemapEntry} (h : entry ∈ (inOrder operations).entries) :
    ∃ visit rest, IsVisitOf operations visit ∧ visit.entries = rest ++ [entry] := by
  obtain ⟨visit, rest, hvisit, hentries⟩ := exists_visit_cons h
  refine ⟨visit.backwards, rest.reverse, hvisit.backwards, ?_⟩
  rw [entries_backwards, hentries, List.reverse_cons]

/-! ## When the order does not show -/

/-- No more than one spelling of the operations is refused, and if none is, the spellings of one
type under one operation have one typemap. -/
structure IsUnambiguous (operations : Dict (Dict Typemap)) : Prop where
  refused : ∀ a ∈ (inOrder operations).entries, ∀ b ∈ (inOrder operations).entries,
    a.refusal?.isSome → b.refusal?.isSome → a.spelling = b.spelling
  typemaps : (∀ a ∈ (inOrder operations).entries, a.refusal? = none) →
    ∀ a ∈ (inOrder operations).entries, ∀ b ∈ (inOrder operations).entries,
      a.operation = b.operation →
      CxxType.ofSpelling a.spelling = CxxType.ofSpelling b.spelling → a.typemap = b.typemap

theorem IsUnambiguous.seen_eq (h : IsUnambiguous operations) {entries entries' : List TypemapEntry}
    (hentries : entries.Perm (inOrder operations).entries)
    (hentries' : entries'.Perm (inOrder operations).entries) : seen entries = seen entries' := by
  have hperm := hentries.trans hentries'.symm
  have hrefusal : entries.findSome? TypemapEntry.refusal? =
      entries'.findSome? TypemapEntry.refusal? := by
    refine findSome?_eq_of_perm hperm fun a ha b hb x y hx hy => ?_
    have hspelling := h.refused a (hentries.mem_iff.1 ha) b (hentries.mem_iff.1 hb)
      (by rw [hx]; rfl) (by rw [hy]; rfl)
    have heq : a.refusal? = b.refusal? := by
      unfold TypemapEntry.refusal?
      rw [hspelling]
    exact Option.some.inj (hx.symm.trans (heq.trans hy))
  unfold seen
  rw [← hrefusal]
  cases hnone : entries.findSome? TypemapEntry.refusal? with
  | some error => rfl
  | none =>
    have hall : ∀ a ∈ (inOrder operations).entries, a.refusal? = none := fun a ha =>
      List.findSome?_eq_none_iff.1 hnone a (hentries.mem_iff.2 ha)
    refine congrArg Except.ok (funext fun operation => funext fun signature => ?_)
    refine findSome?_eq_of_perm
      ((List.reverse_perm _).trans (hperm.trans (List.reverse_perm _).symm)) ?_
    intro a ha b hb x y hx hy
    have ha := hentries.mem_iff.1 (List.mem_reverse.1 ha)
    have hb := hentries.mem_iff.1 (List.mem_reverse.1 hb)
    obtain ⟨type, htype, hop, hsignature, rfl⟩ := TypemapEntry.typemap?_eq_some.1 hx
    obtain ⟨type', htype', hop', hsignature', rfl⟩ := TypemapEntry.typemap?_eq_some.1 hy
    -- The types are those of spellings, so that one signature is that of one type.
    have heq : type = type' := CxxType.IsSpelled.eq_of_signature_eq ⟨_, htype⟩ ⟨_, htype'⟩
      (hsignature.symm.trans hsignature')
    refine h.typemaps hall a ha b hb (hop.symm.trans hop') ?_
    rw [htype, htype', heq]

theorem isUnambiguous_of_visits (h : ∀ visit visit', IsVisitOf operations visit →
      IsVisitOf operations visit' → seen visit.entries = seen visit'.entries) :
    IsUnambiguous operations := by
  constructor
  · intro a ha b hb hra hrb
    obtain ⟨x, hx⟩ := Option.isSome_iff_exists.1 hra
    obtain ⟨y, hy⟩ := Option.isSome_iff_exists.1 hrb
    obtain ⟨visit, rest, hvisit, hentries⟩ := exists_visit_cons ha
    obtain ⟨visit', rest', hvisit', hentries'⟩ := exists_visit_cons hb
    have hseen := h visit visit' hvisit hvisit'
    rw [hentries, hentries', seen, seen, List.findSome?_cons, List.findSome?_cons, hx, hy] at hseen
    cases hseen
    exact (TypemapEntry.spelling_of_refusal? hx).symm.trans (TypemapEntry.spelling_of_refusal? hy)
  · intro hall a ha b hb hop hspelling
    obtain ⟨type, htype⟩ := TypemapEntry.refusal?_eq_none.1 (hall a ha)
    obtain ⟨visit, rest, hvisit, hentries⟩ := exists_visit_concat ha
    obtain ⟨visit', rest', hvisit', hentries'⟩ := exists_visit_concat hb
    have hnone : ∀ {v}, IsVisitOf operations v →
        v.entries.findSome? TypemapEntry.refusal? = none := fun hv =>
      List.findSome?_eq_none_iff.2 fun c hc => hall c (hv.perm.mem_iff.1 hc)
    have hseen := h visit visit' hvisit hvisit'
    rw [seen, seen, hnone hvisit, hnone hvisit', hentries, hentries'] at hseen
    have hfound := congrFun (congrFun (Except.ok.inj hseen) a.operation) type.signature
    have hxa : a.typemap? a.operation type.signature = some a.typemap :=
      TypemapEntry.typemap?_eq_some.2 ⟨type, htype, rfl, rfl, rfl⟩
    have hyb : b.typemap? a.operation type.signature = some b.typemap :=
      TypemapEntry.typemap?_eq_some.2 ⟨type, hspelling ▸ htype, hop, rfl, rfl⟩
    rw [List.reverse_append, List.reverse_append, List.reverse_singleton, List.reverse_singleton,
      List.singleton_append, List.singleton_append, List.findSome?_cons, List.findSome?_cons,
      hxa, hyb] at hfound
    exact Option.some.inj hfound

theorem visits_agree_iff (operations : Dict (Dict Typemap)) :
    (∀ visit visit', IsVisitOf operations visit → IsVisitOf operations visit' →
        (ofVisit visit).map lookup = (ofVisit visit').map lookup) ↔ IsUnambiguous operations := by
  simp only [map_lookup_ofVisit]
  exact ⟨isUnambiguous_of_visits, fun h _ _ hvisit hvisit' => h.seen_eq hvisit.perm hvisit'.perm⟩

/-- Whatever the operations are, they are visited as it has to be. -/
def IsVisitingOrder (order : Dict (Dict Typemap) → Visit) : Prop :=
  ∀ operations, IsVisitOf operations (order operations)

theorem isVisitingOrder_inOrder : IsVisitingOrder inOrder := isVisitOf_inOrder

/-- **When the order does not show.** Reading a document gives the same lookups, or refuses it for
the same reason, in all orders in which its operations and their spellings may be visited, exactly
if the document is refused as such, or no more than one of its spellings is refused and, if none is,
the spellings of one type under one operation have one typemap. The order of the names is one of
them. -/
theorem loads_agree_iff (document : Json.Document) :
    ((∀ order order', IsVisitingOrder order → IsVisitingOrder order' →
        (ofDocumentIn order document).map lookup = (ofDocumentIn order' document).map lookup) ↔
      ∀ operations, document.decode (Json.asDict (Json.asDict Typemap.ofJson)) = .ok operations →
        IsUnambiguous operations) ∧
    IsVisitingOrder inOrder ∧ ofDocument document = ofDocumentIn inOrder document := by
  refine ⟨?_, isVisitingOrder_inOrder, ofDocument_eq document⟩
  unfold ofDocumentIn
  cases hread : document.decode (Json.asDict (Json.asDict Typemap.ofJson)) with
  | error error => exact iff_of_true (fun _ _ _ _ => rfl) nofun
  | ok operations =>
    have hrun (order : Dict (Dict Typemap) → Visit) :
        (((Except.ok operations : Except DocumentError _).mapError .document >>= fun operations =>
          (ofVisit (order operations)).mapError TypemapsError.spelling).map lookup) =
          ((ofVisit (order operations)).map lookup).mapError .spelling := by
      change ((ofVisit (order operations)).mapError _).map lookup = _
      cases ofVisit (order operations) <;> rfl
    simp only [hrun, Except.ok.injEq, forall_eq']
    rw [← visits_agree_iff]
    constructor
    · intro h visit visit' hvisit hvisit'
      -- Any visit of these operations is a part of some order.
      have hproper {v : Visit} (hv : IsVisitOf operations v) :
          IsVisitingOrder (Function.update inOrder operations v) := by
        intro others
        by_cases heq : others = operations
        · subst heq
          rwa [Function.update_self]
        · rw [Function.update_of_ne heq]
          exact isVisitOf_inOrder others
      have hseen := h _ _ (hproper hvisit) (hproper hvisit')
      rw [Function.update_self, Function.update_self] at hseen
      cases hfirst : (ofVisit visit).map lookup <;> cases hsecond : (ofVisit visit').map lookup <;>
        rw [hfirst, hsecond] at hseen <;> cases hseen <;> rfl
    · intro h order order' horder horder'
      rw [h _ _ (horder operations) (horder' operations)]

/-- A document with two spellings of one type. -/
def twoSpellings : Json.Document where
  root := .object [("ctype", .object [("int", .string "first"), ("int ", .string "second")])]
  complete := true

/-- **The order may show.** Of two spellings of one type the one that is visited last counts. -/
theorem not_loads_agree : ¬∀ (document : Json.Document) (order order' : _ → Visit),
    IsVisitingOrder order → IsVisitingOrder order' →
      (ofDocumentIn order document).map lookup = (ofDocumentIn order' document).map lookup := by
  intro h
  have hbackwards : IsVisitingOrder fun operations => (inOrder operations).backwards :=
    fun operations => (isVisitOf_inOrder operations).backwards
  have hseen := congrArg (Except.map fun found => found "ctype" "int")
    (h twoSpellings _ _ isVisitingOrder_inOrder hbackwards)
  revert hseen
  decide +kernel

end TypemapTable

end FortranBindings
