import Mathlib
import FortranBindings.Proofs.CxxType.Signature
import FortranBindings.Proofs.Template.Keeping

/-!
# Kept answers do not show

A search tries the operations one after the other, each with all signatures of the type in their
order (`Sources.search?_eq_some_iff`, `Sources.signatures_eq`). The answers that lookups keep are
those that the same request gets without any history (`LookupState.Sound`). A plain request, by an
operation without a colon for a type that can be read, is determined by what its answer is kept
under (`Request.IsPlain.stored_eq`). So it is answered as if nothing had been looked up before
(`Lookup.find_ensures`), whatever lookups went before it.
-/

namespace FortranBindings

/-- A request by an operation without a colon for a type that can be read from a spelling. -/
structure Request.IsPlain (request : Request) : Prop where
  colon_notMem : ':' ∉ request.operation.toList
  isSpelled : request.type.IsSpelled

namespace Request

/-- What stands in front of the colon in the operation that an answer is kept under. -/
theorem takeWhile_mainOperation {request : Request} (h : ':' ∉ request.operation.toList) :
    request.mainOperation.toList.takeWhile (· ≠ ':') = request.operation.toList := by
  have hall : ∀ c ∈ request.operation.toList, decide (c ≠ ':') = true := by
    intro c hc
    simpa using fun he : c = ':' => h (he ▸ hc)
  unfold mainOperation
  split
  · simp only [String.toList_append, List.append_assoc]
    rw [List.takeWhile_append_of_pos hall]
    simp
  · exact List.takeWhile_eq_self_iff.2 hall

/-- The operation that an answer is kept under tells the operation from its suffix. -/
theorem operations_eq_of_mainOperation_eq {request other : Request}
    (hr : ':' ∉ request.operation.toList) (ho : ':' ∉ other.operation.toList)
    (h : request.mainOperation = other.mainOperation) : request.operations = other.operations := by
  have hop : request.operation = other.operation := by
    rw [← String.toList_inj, ← takeWhile_mainOperation hr, ← takeWhile_mainOperation ho, h]
  have hsuffix : request.suffix = other.suffix := by
    have hlist := congrArg String.toList h
    rw [mainOperation.eq_def, mainOperation.eq_def, hop] at hlist
    cases hs : request.suffix <;> cases hs' : other.suffix <;> simp_all [String.toList_inj]
  rw [operations, operations, hop, hsuffix]

end Request

namespace Sources

variable {sources : Sources} {type : CxxType}

/-- The order of signatures: the type as it was declared, with its typedefs resolved, without its
outermost `const`, and the last two of these with the generic name in place of the base if there is
one. -/
theorem signatures_eq (sources : Sources) (type : CxxType) :
    sources.signatures type =
      [type.signature, (sources.decls.resolveOrKeep type).signature,
        (sources.decls.resolveOrKeep type).withoutQualifiers.signature] ++
      (sources.genericName? (sources.decls.resolveOrKeep type)).elim [] fun name =>
        [((sources.decls.resolveOrKeep type).replaceBase (.named name)).signature,
          ((sources.decls.resolveOrKeep type).withoutQualifiers.replaceBase
            (.named name)).signature] := by
  unfold signatures
  dsimp only
  cases sources.genericName? (sources.decls.resolveOrKeep type) <;> rfl

/-- The order of a search: what is found is found for an operation and a signature such that nothing
is found for the signatures in front with this operation, nor for any signature with the operations
in front. -/
theorem search?_eq_some_iff {operations : List String} {typemap : Typemap} :
    sources.search? operations type = some typemap ↔
      ∃ earlier operation later, operations = earlier ++ operation :: later ∧
        (∃ before signature after, sources.signatures type = before ++ signature :: after ∧
          sources.store operation signature = some typemap ∧
          ∀ other ∈ before, sources.store operation other = none) ∧
        ∀ other ∈ earlier, ∀ signature ∈ sources.signatures type,
          sources.store other signature = none := by
  simp only [search?, List.findSome?_eq_some_iff, List.findSome?_eq_none_iff]

end Sources

/-- The answer that is kept for a request, without any history. -/
def Lookup.stored (sources : Sources) (request : Request) : Answer :=
  match sources.search? request.operations request.type with
  | some typemap => .found (named sources request.type typemap)
  | none => .placeholder { code := placeholderName request.type }

/-- What is kept decides the answer to a request without attached typemaps. -/
theorem Lookup.answer?_eq_of_attached?_eq_none {sources : Sources} {request : Request}
    (h : request.attached? = none) :
    answer? sources request =
      match stored sources request, request.need with
      | .found typemap, _ => some typemap
      | .placeholder _, .optional => none
      | .placeholder typemap, .required => some typemap := by
  unfold answer? stored
  cases sources.search? request.operations request.type <;> cases request.need <;> simp [h]

/-- What an answer is kept under determines it. -/
theorem Request.IsPlain.stored_eq {sources : Sources} {request other : Request}
    (hr : request.IsPlain) (ho : other.IsPlain)
    (hop : request.mainOperation = other.mainOperation)
    (hsig : request.type.signature = other.type.signature) :
    Lookup.stored sources request = Lookup.stored sources other := by
  have htype := hr.isSpelled.eq_of_signature_eq ho.isSpelled hsig
  have hops := Request.operations_eq_of_mainOperation_eq hr.colon_notMem ho.colon_notMem hop
  rw [Lookup.stored, Lookup.stored, htype, hops]

namespace LookupState

/-- Every answer that is kept is the one that plain requests get without any history. -/
def Sound (sources : Sources) (state : LookupState) : Prop :=
  ∀ request : Request, request.IsPlain → ∀ answer,
    state.answer? request.mainOperation request.type.signature = some answer →
      answer = Lookup.stored sources request

theorem answer?_keep (state : LookupState) (operation signature operation' signature' : String)
    (answer : Answer) :
    (state.keep operation signature answer).answer? operation' signature' =
      if operation' = operation ∧ signature' = signature then some answer
      else state.answer? operation' signature' := by
  unfold answer? keep
  simp only [Dict.find?_insert]
  by_cases hop : operation' = operation
  · subst hop
    have hempty : ({} : Dict Answer).find? signature' = none := rfl
    cases state.answers.find? operation' <;> simp [Dict.find?_insert, hempty]
  · simp [hop]

theorem sound_empty (sources : Sources) : Sound sources {} := by
  intro request _ answer h
  cases h

/-- Soundness depends on the kept answers only. -/
theorem Sound.of_answers_eq {sources : Sources} {state next : LookupState}
    (h : state.Sound sources) (ha : next.answers = state.answers) : next.Sound sources := by
  intro request hplain answer hanswer
  refine h request hplain answer ?_
  rwa [answer?, ← ha]

theorem Sound.report {sources : Sources} {state : LookupState} (h : state.Sound sources)
    (diagnostic : Diagnostic) : (state.report diagnostic).Sound sources :=
  h.of_answers_eq rfl

theorem answers_noteOpaque (state : LookupState) (name : String) :
    (state.noteOpaque name).answers = state.answers := by
  unfold LookupState.noteOpaque
  split <;> rfl

theorem answers_naming (sources : Sources) (type : CxxType) (location : Location)
    (state : LookupState) : (state.naming sources type location).answers = state.answers := by
  cases hname : sources.fortranName? type with
  | some name => rw [naming_of_some hname]
  | none =>
    rw [naming_of_none hname]
    exact answers_noteOpaque _ _

/-- Keeping the answer of a plain request keeps the answers sound. -/
theorem Sound.keep {sources : Sources} {state : LookupState} {request : Request}
    (h : state.Sound sources) (hplain : request.IsPlain) :
    (state.keep request.mainOperation request.type.signature
      (Lookup.stored sources request)).Sound sources := by
  intro other hother answer hanswer
  rw [answer?_keep] at hanswer
  split at hanswer
  · next hkey =>
    cases hanswer
    exact hplain.stored_eq hother hkey.1.symm hkey.2.symm
  · exact h other hother answer hanswer

end LookupState

namespace Lookup

variable {sources : Sources}

section

variable {inv : LookupState → Prop}

theorem report_ensures (hinv : ∀ state next, next.answers = state.answers → inv state → inv next)
    (kind : DiagnosticKind) (location : Location) (message : String) :
    Ensures inv (report kind location message) fun _ => True :=
  .modify fun state hs => hinv state _ rfl hs

/-- Replacing the class name gives what it gives without any history, and changes no kept
answer. -/
theorem withClassName_ensures
    (hinv : ∀ state next, next.answers = state.answers → inv state → inv next) (type : CxxType)
    (typemap : Typemap) (location : Location) :
    Ensures inv (withClassName sources type typemap location)
      (· = named sources type typemap) := by
  intro state hs
  rw [withClassName_run]
  refine ⟨rfl, ?_⟩
  split
  · exact hinv state _ (LookupState.answers_naming ..) hs
  · exact hs

end

/-- A miss in the kept answers is answered from the store, and what is kept is sound. -/
theorem searchStore_ensures {request : Request} (h : request.IsPlain)
    (ha : request.attached? = none) :
    Ensures (LookupState.Sound sources) (searchStore sources request)
      (· = answer? sources request) := by
  have hkeep := fun state (hs : LookupState.Sound sources state) => hs.keep h
  rw [answer?_eq_of_attached?_eq_none ha]
  unfold searchStore
  unfold stored at hkeep ⊢
  cases hfound : sources.search? request.operations request.type with
  | some typemap =>
    simp only [hfound] at hkeep
    refine (withClassName_ensures (fun _ _ ha hs => hs.of_answers_eq ha) _ _ _).bind
      fun found hname => ?_
    subst hname
    exact (Ensures.modify hkeep).bind fun _ _ => .pure rfl
  | none =>
    simp only [hfound] at hkeep
    cases request.need with
    | optional => exact .pure rfl
    | required =>
      refine (report_ensures (fun _ _ ha hs => hs.of_answers_eq ha) _ _ _).bind fun _ _ => ?_
      exact (Ensures.modify hkeep).bind fun _ _ => .pure rfl

/-- A plain request is answered as if nothing had been looked up before. -/
theorem find_ensures {request : Request} (h : request.IsPlain) :
    Ensures (LookupState.Sound sources) (find sources request) (· = answer? sources request) := by
  unfold find
  cases ha : request.attached? with
  | some typemap =>
    refine (withClassName_ensures (fun _ _ ha hs => hs.of_answers_eq ha) _ _ _).bind
      fun found hname => .pure ?_
    simp [answer?, ha, hname]
  | none =>
    -- The branches depend on what the state has kept, so they are taken at one sound state.
    intro state hs
    have hsearch := searchStore_ensures h ha state hs
    simp only [StateT.run_bind, StateT.run_get, pure_bind]
    cases hkept : state.answer? request.mainOperation request.type.signature with
    | none => simpa only [hkept] using hsearch
    | some answer =>
      rw [answer?_eq_of_attached?_eq_none ha, ← hs request h answer hkept]
      cases answer with
      | found typemap => exact ⟨rfl, hs⟩
      | placeholder typemap => cases request.need <;> exact ⟨rfl, hs⟩

/-- **Kept answers do not show.** In any sequence of plain requests each one gets the answer that
it gets without any history, which is also its answer as the first request of all. -/
theorem find_sequence (sources : Sources) {requests : List Request}
    (h : ∀ request ∈ requests, request.IsPlain) :
    ((requests.mapM (find sources)).run {}).1 = requests.map (answer? sources) ∧
      ((requests.mapM (find sources)).run {}).1 =
        requests.map fun request => ((find sources request).run {}).1 := by
  have hempty := LookupState.sound_empty sources
  have hanswers : ((requests.mapM (find sources)).run {}).1 = requests.map (answer? sources) :=
    (Ensures.mapM_eq (fun request hr => find_ensures (h request hr)) {} hempty).1
  refine ⟨hanswers, hanswers.trans (List.map_congr_left fun request hr => ?_)⟩
  exact (find_ensures (h request hr) {} hempty).1.symm

/-- A library with a class and a typedef. Its store has templates for a suffix, for the type behind
the typedef and for all classes. -/
def gauges : Sources where
  decls := {
    name := "gauges"
    typedefs := Dict.empty.insert "reading_t" (.builtin .double)
    items := [.cls { name := "Gauge", rename := some "Meter" }] }
  store operation signature :=
    (entries.lookup (operation, signature)).map fun code => { code }
where
  entries : List ((String × String) × String) := [
    (("ctype:out", "SWIGTYPE"), "void *"),
    (("ctype", "SWIGTYPE"), "const void *"),
    (("ctype", "SWIGTYPE *"), "void *"),
    (("ctype", "double"), "double"),
    (("in", "double"), "$1 = $input;"),
    (("ftype", "SWIGTYPE *"), "class($fclassname)")]

/-- Requests that find a template for a suffix, for a signature of a type behind the declared one
and for all classes, and requests that find none. -/
def gaugeRequests : List Request := [
  request "ctype" (some "out") (.named "Gauge") .required,
  request "ctype" (some "out") ((CxxType.named "reading_t").withConst true) .required,
  request "ctype" none (.named "Gauge") .required,
  request "ftype" none (.pointer (.named "Gauge")) .required,
  request "ftype" none (.pointer (.named "Gauge")) .optional,
  request "ftype" none (.pointer (.pointer (.builtin .double))) .optional,
  request "ftype" none (.pointer (.pointer (.builtin .double))) .required,
  request "ftype" none (.pointer (.pointer (.builtin .double))) .optional]
where
  request (operation : String) (suffix : Option String) (type : CxxType) (need : Need) : Request :=
    { operation, suffix, type, need, location := {} }

theorem find_sequence_of_gauges : (∀ r ∈ gaugeRequests, r.IsPlain) ∧
    ((gaugeRequests.mapM (find gauges)).run {}).1 =
      [some { code := "void *" }, some { code := "double" }, some { code := "const void *" },
        some { code := "class(Meter)" }, some { code := "class(Meter)" }, none,
        some { code := "SWIGTYPE_p_p_double" }, none] := by
  have hread : ∀ r ∈ gaugeRequests, CxxType.ofSpelling r.type.signature = .ok r.type := by
    decide +kernel
  have hcolon : ∀ r ∈ gaugeRequests, ':' ∉ r.operation.toList := by decide
  have hplain : ∀ r ∈ gaugeRequests, r.IsPlain := fun r hr => ⟨hcolon r hr, _, hread r hr⟩
  refine ⟨hplain, (find_sequence gauges hplain).1.trans ?_⟩
  decide +kernel

end Lookup

end FortranBindings
