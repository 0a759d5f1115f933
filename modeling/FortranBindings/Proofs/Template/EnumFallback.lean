import FortranBindings.Proofs.Declarations.Flattening
import FortranBindings.Proofs.Template.Coverage
import FortranBindings.Proofs.Template.History
import FortranBindings.Proofs.TypemapTable.Interoperability
import FortranBindings.TypemapTable.Document

/-!
# The fallback for enums

A type that is built on an enum is also looked up in the shape it resolves to with the generic name
of enums, `SWIGENUM`, in place of the enum. So a typemap entered for that spelling is what such a
type gets if there is none for the type itself (`Lookup.find_enumeration`). The generic name is a
plain one: a typemap entered for `enum SWIGENUM` is not found
(`Lookup.not_find_enumeration_of_keyword`).

The answer does not depend on what was looked up before. Where all requests with one answer key get
the same typemap, with a suffix or without, every one of them is answered with it
(`Lookup.find_keepsOnly`).
-/

namespace FortranBindings

/-! ## Entries for spellings -/

namespace TypemapTable

variable {table : TypemapTable} {operation spelling : String} {typemap : Typemap}

/-- The table has the typemap as an entry for a spelling. -/
def Holds (table : TypemapTable) (operation spelling : String) (typemap : Typemap) : Prop :=
  ∃ type, CxxType.ofSpelling spelling = .ok type ∧
    table.lookup operation type.signature = some typemap

/-- What is there for a signature is there for the spelling of it. -/
theorem holds_signature {type : CxxType} (h : type.root.WellSpelled)
    (hlookup : table.lookup operation type.signature = some typemap) :
    table.Holds operation type.signature typemap := by
  refine ⟨type.normal, ?_, by rwa [CxxType.signature_normal]⟩
  rw [← CxxType.signature_normal]
  exact CxxType.ofSpelling_signature (CxxType.wellSpelled_normal h)

/-- What is entered for a spelling is there. -/
theorem holds_insertSpellings {next : TypemapTable}
    (h : table.insertSpellings operation (Dict.ofList [(spelling, typemap)]) = .ok next) :
    next.Holds operation spelling typemap := by
  have hinsert : (CxxType.ofSpelling spelling).map (table.insert operation · typemap) = .ok next :=
    (bind_pure _).symm.trans h
  obtain ⟨type, htype, rfl⟩ := Except.map_eq_ok.1 hinsert
  exact ⟨type, htype, by rw [lookup_insert, if_pos ⟨rfl, rfl⟩]⟩

end TypemapTable

namespace CxxType

/-- The spelling names the shape of a type with a base in place of its own. What a signature does
not show makes no difference. -/
def IsShapeOf (spelling : String) (type : CxxType) (root : Base) : Prop :=
  ∃ shape, ofSpelling spelling = .ok shape ∧
    shape.signature = (type.replaceBase (.base false root)).signature

/-- Every shape has a spelling. -/
theorem isShapeOf_signature (type : CxxType) {root : Base} (h : root.WellSpelled) :
    IsShapeOf (type.replaceBase (.base false root)).signature type root := by
  have hroot : (type.replaceBase (.base false root)).root.WellSpelled := by
    rwa [root_replaceBase]
  refine ⟨(type.replaceBase (.base false root)).normal, ?_, signature_normal _⟩
  rw [← signature_normal]
  exact ofSpelling_signature (wellSpelled_normal hroot)

end CxxType

/-- Is the type built on an enum, declared or not? -/
def TypeCategory.isEnumeration : TypeCategory → Bool
  | enumeration _ | unknownEnumeration _ => true
  | _ => false

/-! ## What is found -/

namespace Sources

/-- The typemap is what is left for a type that is built on an enum: there is none for the type
itself, and this one is entered for the shape that it resolves to around the name of any enum. -/
structure HasFallback (decls : Declarations) (table : TypemapTable) (generic : CxxType.Base)
    (operation : String) (type resolved : CxxType) (typemap : Typemap) : Prop where
  resolve : decls.resolve type = .ok resolved
  isEnumeration : (decls.categorizeBase resolved.root).isEnumeration = true
  entry : ∃ spelling, CxxType.IsShapeOf spelling resolved generic ∧
    table.Holds operation spelling typemap
  none_declared : table.lookup operation type.signature = none
  none_resolved : table.lookup operation resolved.signature = none
  none_plain : table.lookup operation resolved.withoutQualifiers.signature = none

variable {decls : Declarations} {table : TypemapTable} {operation : String}
  {type resolved : CxxType} {typemap : Typemap}

theorem genericName?_of_isEnumeration {sources : Sources}
    (h : sources.decls.resolve type = .ok resolved)
    (henum : (sources.decls.categorizeBase resolved.root).isEnumeration = true) :
    sources.genericName? resolved = some genericEnumeration := by
  rw [genericName?_of_resolve h]
  cases hcategory : sources.decls.categorizeBase resolved.root <;>
    simp_all [TypeCategory.isEnumeration]

/-- The fallback is found among the signatures of the type. -/
theorem HasFallback.findSome?_signatures
    (h : HasFallback decls table (.named genericEnumeration) operation type resolved typemap) :
    ((⟨decls, table.lookup⟩ : Sources).signatures type).findSome? (table.lookup operation) =
      some typemap := by
  obtain ⟨spelling, ⟨shape, hshape, hsignature⟩, entered, hentered, hentry⟩ := h.entry
  obtain rfl := Except.ok.inj (hshape.symm.trans hentered)
  have hname : (⟨decls, table.lookup⟩ : Sources).genericName? resolved = some genericEnumeration :=
    genericName?_of_isEnumeration h.resolve h.isEnumeration
  rw [hsignature] at hentry
  rw [signatures, Declarations.resolveOrKeep_of_resolve h.resolve]
  simp [hname, h.none_declared, h.none_resolved, h.none_plain, CxxType.named, hentry]

end Sources

namespace LookupState

/-- All answers that are kept for the operation and the signature are typemaps of some kind. -/
def KeepsAmong (operation signature : String) (isFound : Typemap → Prop) (state : LookupState) :
    Prop :=
  ∀ answer, state.answer? operation signature = some answer →
    ∃ typemap, isFound typemap ∧ answer = .found typemap

/-- No other answer than the typemap is kept for the operation and the signature. -/
def KeepsOnly (operation signature : String) (typemap : Typemap) (state : LookupState) : Prop :=
  ∀ answer, state.answer? operation signature = some answer → answer = .found typemap

theorem keepsOnly_eq_keepsAmong (operation signature : String) (typemap : Typemap) :
    KeepsOnly operation signature typemap = KeepsAmong operation signature (· = typemap) := by
  funext state
  simp [KeepsOnly, KeepsAmong]

variable {operation signature : String} {isFound : Typemap → Prop} {state next : LookupState}

theorem keepsAmong_empty (operation signature : String) (isFound : Typemap → Prop) :
    KeepsAmong operation signature isFound {} := by
  intro answer hanswer
  cases hanswer

theorem KeepsAmong.of_answers_eq (h : KeepsAmong operation signature isFound state)
    (ha : next.answers = state.answers) : KeepsAmong operation signature isFound next := by
  intro answer hanswer
  refine h answer ?_
  rwa [answer?, ← ha]

theorem KeepsAmong.keep {operation' signature' : String} {answer : Answer}
    (h : KeepsAmong operation signature isFound state)
    (hanswer : operation' = operation → signature' = signature →
      ∃ typemap, isFound typemap ∧ answer = .found typemap) :
    KeepsAmong operation signature isFound (state.keep operation' signature' answer) := by
  intro other hother
  rw [answer?_keep] at hother
  split at hother
  · next hkey =>
    cases hother
    exact hanswer hkey.1.symm hkey.2.symm
  · exact h other hother

end LookupState

namespace Lookup

variable {sources : Sources} {operation signature : String} {found : Typemap} {request : Request}
  {isFound : Typemap → Prop}

/-- The answer to the request is kept under an operation and a signature. -/
def IsKeptUnder (operation signature : String) (request : Request) : Prop :=
  request.attached? = none ∧ request.mainOperation = operation ∧
    request.type.signature = signature

theorem searchStore_keepsAmong (ha : request.attached? = none)
    (h : IsKeptUnder operation signature request → ∃ typemap,
      sources.search? request.operations request.type = some typemap ∧
        isFound (named sources request.type typemap)) :
    Ensures (LookupState.KeepsAmong operation signature isFound) (searchStore sources request)
      fun answer => IsKeptUnder operation signature request →
        ∃ typemap, isFound typemap ∧ answer = some typemap := by
  unfold searchStore
  cases hsearch : sources.search? request.operations request.type with
  | some typemap =>
    have hfound : IsKeptUnder operation signature request →
        isFound (named sources request.type typemap) := by
      intro hkey
      obtain ⟨other, hother, hnamed⟩ := h hkey
      obtain rfl := Option.some.inj (hsearch.symm.trans hother)
      exact hnamed
    refine (withClassName_ensures (fun _ _ ha hs => hs.of_answers_eq ha) _ _ _).bind
      fun answer hanswer => ?_
    subst hanswer
    refine (Ensures.modify fun state hs => hs.keep fun hoperation hsignature => ?_).bind
      fun _ _ => .pure fun hkey => ⟨_, hfound hkey, rfl⟩
    exact ⟨_, hfound ⟨ha, hoperation, hsignature⟩, rfl⟩
  | none =>
    have hother : ¬IsKeptUnder operation signature request := by
      intro hkey
      obtain ⟨typemap, htypemap, -⟩ := h hkey
      cases hsearch.symm.trans htypemap
    cases request.need with
    | optional => exact .pure fun hkey => absurd hkey hother
    | required =>
      refine (report_ensures (fun _ _ ha hs => hs.of_answers_eq ha) _ _ _).bind fun _ _ => ?_
      refine (Ensures.modify fun state hs => hs.keep fun hoperation hsignature => ?_).bind
        fun _ _ => .pure fun hkey => absurd hkey hother
      exact absurd ⟨ha, hoperation, hsignature⟩ hother

/-- **Answers of one kind for one key.** If every request whose answer is kept under an operation
and a signature finds a typemap of some kind in the store, then no other answer is kept there, and
each such request is answered with a typemap of this kind. -/
theorem find_keepsAmong
    (h : IsKeptUnder operation signature request → ∃ typemap,
      sources.search? request.operations request.type = some typemap ∧
        isFound (named sources request.type typemap)) :
    Ensures (LookupState.KeepsAmong operation signature isFound) (find sources request)
      fun answer => IsKeptUnder operation signature request →
        ∃ typemap, isFound typemap ∧ answer = some typemap := by
  unfold find
  cases ha : request.attached? with
  | some typemap =>
    refine (withClassName_ensures (fun _ _ ha hs => hs.of_answers_eq ha) _ _ _).bind
      fun _ _ => .pure ?_
    rintro ⟨hnone, -⟩
    cases ha.symm.trans hnone
  | none =>
    intro state hs
    have hsearch := searchStore_keepsAmong ha h state hs
    simp only [StateT.run_bind, StateT.run_get, pure_bind]
    cases hkept : state.answer? request.mainOperation request.type.signature with
    | none => simpa only [hkept] using hsearch
    | some answer =>
      have hanswer : IsKeptUnder operation signature request →
          ∃ typemap, isFound typemap ∧ answer = .found typemap := by
        rintro ⟨-, rfl, rfl⟩
        exact hs answer hkept
      cases answer with
      | found typemap =>
        refine ⟨fun hkey => ?_, hs⟩
        obtain ⟨other, hother, heq⟩ := hanswer hkey
        cases heq
        exact ⟨typemap, hother, rfl⟩
      | placeholder typemap =>
        have hother : ¬IsKeptUnder operation signature request := fun hkey => by
          obtain ⟨other, -, heq⟩ := hanswer hkey
          cases heq
        cases request.need <;> exact ⟨fun hkey => absurd hkey hother, hs⟩

/-- **One answer for one key.** If every request whose answer is kept under an operation and a
signature finds the same typemap in the store, then no other answer is kept there, and each such
request is answered with it. -/
theorem find_keepsOnly
    (h : IsKeptUnder operation signature request → ∃ typemap,
      sources.search? request.operations request.type = some typemap ∧
        named sources request.type typemap = found) :
    Ensures (LookupState.KeepsOnly operation signature found) (find sources request)
      fun answer => IsKeptUnder operation signature request → answer = some found := by
  rw [LookupState.keepsOnly_eq_keepsAmong]
  refine (find_keepsAmong h).mono fun answer hanswer hkey => ?_
  obtain ⟨typemap, rfl, heq⟩ := hanswer hkey
  exact heq

/-- The operation that an answer is kept under is the first to be tried. -/
theorem search?_of_findSome?_signatures {typemap : Typemap}
    (h : (sources.signatures request.type).findSome? (sources.store request.mainOperation) =
      some typemap) : sources.search? request.operations request.type = some typemap := by
  rw [Sources.search?, Request.operations.eq_def]
  rw [Request.mainOperation.eq_def] at h
  cases hsuffix : request.suffix with
  | none =>
    rw [hsuffix] at h
    rw [List.findSome?_cons, h]
  | some suffix =>
    rw [hsuffix] at h
    rw [List.findSome?_cons, h]

/-- **The fallback for enums.** A type that is built on an enum, through whatever typedefs and in
whatever shape, gets the typemap that is entered for its shape around `SWIGENUM` if there is no
other for the type, also after other lookups. These must not have been for another type with the
same signature, which no two types that can be read have
(`CxxType.IsSpelled.eq_of_signature_eq`). -/
theorem find_enumeration {decls : Declarations} {table : TypemapTable} {operation : String}
    {type resolved : CxxType} {typemap : Typemap}
    (h : Sources.HasFallback decls table (.named genericEnumeration) operation type resolved
      typemap) {history : List Request}
    (hhistory : ∀ earlier ∈ history, earlier.type.signature = type.signature → earlier.type = type)
    (need : Need) (location : Location) :
    let sources : Sources := ⟨decls, table.lookup⟩
    ((history.mapM (find sources) >>= fun _ =>
      find sources { operation, type, need, location }).run {}).1 =
        some (named sources type typemap) := by
  intro sources
  have hkey (request : Request) (htype : request.type.signature = type.signature →
      request.type = type) : IsKeptUnder operation type.signature request → ∃ found,
        sources.search? request.operations request.type = some found ∧
          named sources request.type found = named sources type typemap := by
    rintro ⟨-, hoperation, hsignature⟩
    rw [htype hsignature]
    refine ⟨typemap, ?_, rfl⟩
    rw [← htype hsignature]
    refine search?_of_findSome?_signatures ?_
    rw [hoperation, htype hsignature]
    exact h.findSome?_signatures
  have hrun := (Ensures.mapM fun earlier hmem =>
    find_keepsOnly (hkey earlier (hhistory earlier hmem))).bind fun _ _ =>
      find_keepsOnly (hkey { operation, type, need, location } fun _ => rfl)
  exact (hrun {} nofun).1 ⟨rfl, rfl, rfl⟩

end Lookup

/-- A typedef of a `const` enum that is not declared. -/
def Declarations.modes : Declarations where
  name := "modes"
  typedefs := Dict.ofList [("mode_t", .base true (.enumeration "Mode"))]

/-- A typemap for references to `const` enums. -/
def TypemapTable.modes : TypemapTable :=
  ({} : TypemapTable).insert "ftype" (.lvalueReference (.base true (.named genericEnumeration)))
    { code := "integer($fclassname), intent(in)" }

theorem Sources.hasFallback_modes : HasFallback .modes .modes (.named genericEnumeration) "ftype"
    (.lvalueReference (.named "mode_t")) (.lvalueReference (.base true (.enumeration "Mode")))
    { code := "integer($fclassname), intent(in)" } where
  resolve := by
    have hmode : Declarations.modes.resolve (.named "mode_t") =
        .ok (.base true (.enumeration "Mode")) :=
      Declarations.resolve_of_find? (by decide) nofun
    rw [CxxType.lvalueReference, Declarations.resolve_declared, hmode]
    rfl
  isEnumeration := by decide
  entry := ⟨_, CxxType.isShapeOf_signature _ (by decide),
    TypemapTable.holds_signature (by decide) (by decide)⟩
  none_declared := by decide
  none_resolved := by decide
  none_plain := by decide

namespace Lookup

/-- A reference to a `const` enum through a typedef, after a lookup for the enum itself. -/
theorem find_enumeration_of_modes :
    let sources : Sources := ⟨.modes, TypemapTable.modes.lookup⟩
    let request (type : CxxType) (need : Need) : Request :=
      { operation := "ftype", type, need, location := {} }
    ((([request (.named "mode_t") .required].mapM (find sources)) >>= fun _ =>
      find sources (request (.lvalueReference (.named "mode_t")) .optional)).run {}).1 =
        some { code := "integer(C_INT), intent(in)" } := by
  intro sources request
  have hhistory : ∀ earlier ∈ [request (.named "mode_t") .required], earlier.type.signature =
      (CxxType.lvalueReference (.named "mode_t")).signature →
        earlier.type = .lvalueReference (.named "mode_t") := by
    decide
  have hname : sources.fortranName? (.lvalueReference (.named "mode_t")) = some "C_INT" := by
    rw [Sources.fortranName?,
      Declarations.resolveOrKeep_of_resolve Sources.hasFallback_modes.resolve]
    cbv
  refine (find_enumeration Sources.hasFallback_modes hhistory .optional {}).trans ?_
  rw [named, classNameOf, hname]
  decide +kernel

/-- A typemap that is entered for the shape around `enum SWIGENUM` is not found. -/
theorem not_find_enumeration_of_keyword :
    ¬∀ (decls : Declarations) (table : TypemapTable) (operation : String) (type resolved : CxxType)
      (typemap : Typemap) (need : Need) (location : Location),
      Sources.HasFallback decls table (.enumeration genericEnumeration) operation type resolved
        typemap →
      ((find ⟨decls, table.lookup⟩ { operation, type, need, location }).run {}).1 =
        some (named ⟨decls, table.lookup⟩ type typemap) := by
  intro hall
  let table := ({} : TypemapTable).insert "ctype" (.base false (.enumeration genericEnumeration))
    { code := "int" }
  have hfallback : Sources.HasFallback { name := "modes" } table (.enumeration genericEnumeration)
      "ctype" (.base false (.enumeration "Mode")) (.base false (.enumeration "Mode"))
      { code := "int" } := {
    resolve := Declarations.resolve_of_isResolved nofun
    isEnumeration := by decide
    entry := ⟨_, CxxType.isShapeOf_signature _ (by decide),
      TypemapTable.holds_signature (by decide) (by decide)⟩
    none_declared := by decide
    none_resolved := by decide
    none_plain := by decide }
  have hfound := hall _ _ _ _ _ _ .optional {} hfallback
  let request : Request :=
    { operation := "ctype", type := .base false (.enumeration "Mode"), need := .optional,
      location := {} }
  have hnone : ((find ⟨{ name := "modes" }, table.lookup⟩ request).run {}).1 = none := by
    cbv
  cases hnone.symm.trans hfound

end Lookup

end FortranBindings
