import FortranBindings.Proofs.Template.Keeping
import FortranBindings.Proofs.Template.Requests

/-!
# Misses are reported once

A miss is a request for a template that is needed, that is not attached and that the store does not
have. Of the requests with one key that miss, the first is reported and no other
(`Lookup.misses_after_concat`), whatever else is asked or attached before and in between, and all of
them get the same placeholder (`Lookup.misses_reported_once`). What decides it is whether an answer
is kept for the key, which is so exactly if a request with this key has missed before
(`Lookup.IsReported`).
-/

namespace FortranBindings

variable {sources : Sources} {request : Request} {state : LookupState}

/-- A template is needed, none is attached, and the store has none. -/
structure Request.Misses (sources : Sources) (request : Request) : Prop where
  need : request.need = .required
  attached : request.attached? = none
  store : sources.search? request.operations request.type = none

instance (sources : Sources) (request : Request) : Decidable (request.Misses sources) :=
  decidable_of_iff (request.need = .required ∧ request.attached? = none ∧
      sources.search? request.operations request.type = none)
    ⟨fun h => ⟨h.1, h.2.1, h.2.2⟩, fun h => ⟨h.need, h.attached, h.store⟩⟩

/-- The reports of misses among some diagnostics. -/
def Diagnostic.misses (diagnostics : List Diagnostic) : List Diagnostic :=
  diagnostics.filter (·.kind = .missingTemplate)

/-- The store has the same for plain requests with one key. -/
theorem Request.IsPlain.search?_eq {other : Request} (hr : request.IsPlain) (ho : other.IsPlain)
    (h : request.key = other.key) :
    sources.search? request.operations request.type =
      sources.search? other.operations other.type := by
  have hop : request.mainOperation = other.mainOperation := congrArg Prod.fst h
  have htype := hr.isSpelled.eq_of_signature_eq ho.isSpelled (congrArg Prod.snd h)
  rw [htype, operations_eq_of_mainOperation_eq hr.colon_notMem ho.colon_notMem hop]

namespace Lookup

/-! ## One request -/

/-- Putting in the name of a class reports no miss. -/
theorem preserves_misses (reports : List Diagnostic) :
    Preserves fun state => Diagnostic.misses state.diagnostics = reports where
  keep _ _ _ _ h := h
  noteOpaque state type h := by
    unfold LookupState.noteOpaque
    split <;> exact h
  report state location message h := by
    rw [LookupState.report, Diagnostic.misses, List.filter_append, ← Diagnostic.misses, h]
    exact List.append_nil reports

theorem misses_withClassName (type : CxxType) (typemap : Typemap) (location : Location)
    (state : LookupState) :
    Diagnostic.misses ((withClassName sources type typemap location).run state).2.diagnostics =
      Diagnostic.misses state.diagnostics :=
  (withClassName_keeps (preserves_misses _) type typemap location state rfl).2

/-- **What a request reports**: its miss, unless an answer is kept. -/
theorem misses_find (sources : Sources) (request : Request) (state : LookupState) :
    Diagnostic.misses ((find sources request).run state).2.diagnostics =
      Diagnostic.misses state.diagnostics ++
        if request.Misses sources ∧ state.kept? request = none then [request.miss] else [] := by
  cases ha : request.attached? with
  | some typemap =>
    have hnot : ¬(request.Misses sources ∧ state.kept? request = none) := by
      rintro ⟨hmisses, -⟩
      rw [hmisses.attached] at ha
      cases ha
    rw [if_neg hnot, List.append_nil, find, ha]
    exact misses_withClassName request.type typemap request.location state
  | none =>
    have hget : ∀ f : LookupState → Lookup (Option Typemap),
        (get >>= f).run state = (f state).run state := fun _ => rfl
    have hkey : state.answer? request.mainOperation request.type.signature =
        state.kept? request := rfl
    rw [find, ha]
    dsimp only
    rw [hget, hkey]
    cases hkept : state.kept? request with
    | some answer =>
      rw [if_neg (fun h => nomatch h.2), List.append_nil]
      cases answer with
      | found typemap => rfl
      | placeholder typemap => cases request.need <;> rfl
    | none =>
      dsimp only
      unfold searchStore
      cases hfound : sources.search? request.operations request.type with
      | some typemap =>
        have hnot : ¬(request.Misses sources ∧ (none : Option Answer) = none) := by
          rintro ⟨hmisses, -⟩
          rw [hmisses.store] at hfound
          cases hfound
        rw [if_neg hnot, List.append_nil]
        exact misses_withClassName request.type typemap request.location state
      | none =>
        cases hneed : request.need with
        | optional =>
          have hnot : ¬(request.Misses sources ∧ (none : Option Answer) = none) := by
            rintro ⟨hmisses, -⟩
            rw [hmisses.need] at hneed
            cases hneed
          rw [if_neg hnot, List.append_nil]
          rfl
        | required =>
          rw [if_pos ⟨⟨hneed, ha, hfound⟩, rfl⟩]
          exact List.filter_append state.diagnostics [request.miss]

/-! ## Requests one after the other -/

/-- The state that requests lead to, one after the other. -/
def after (sources : Sources) (requests : List Request) : LookupState :=
  requests.foldl (fun state request => ((find sources request).run state).2) {}

theorem after_concat (sources : Sources) (requests : List Request) (request : Request) :
    after sources (requests ++ [request]) =
      ((find sources request).run (after sources requests)).2 := by
  rw [after, List.foldl_concat]
  rfl

/-- The kept answers are sound, and for a request that the store has nothing for an answer is kept
exactly if a request with its key missed before. -/
structure IsReported (sources : Sources) (before : List Request) (state : LookupState) : Prop where
  sound : state.Sound sources
  kept : ∀ request : Request, request.IsPlain →
    sources.search? request.operations request.type = none →
      (state.kept? request = none ↔
        ∀ earlier ∈ before, earlier.key = request.key → ¬earlier.Misses sources)

theorem isReported_empty (sources : Sources) : IsReported sources [] {} :=
  ⟨LookupState.sound_empty sources, fun _ _ _ => iff_of_true rfl nofun⟩

/-- What is kept for a request that misses, by what was kept for it before. -/
theorem respond_eq_none {kept : Option Answer}
    (hstore : sources.search? request.operations request.type = none) :
    (respond sources request kept).2 = none ↔ kept = none ∧ ¬request.Misses sources := by
  unfold respond stored
  rw [hstore]
  cases ha : request.attached? with
  | some typemap =>
    refine ⟨fun h => ⟨h, fun hmisses => ?_⟩, And.left⟩
    rw [hmisses.attached] at ha
    cases ha
  | none =>
    cases kept with
    | some answer =>
      refine iff_of_false ?_ (fun h => nomatch h.1)
      cases answer <;> cases request.need <;> exact nofun
    | none =>
      cases hneed : request.need with
      | optional =>
        refine iff_of_true rfl ⟨rfl, fun hmisses => ?_⟩
        rw [hmisses.need] at hneed
        cases hneed
      | required => exact iff_of_false nofun fun h => h.2 ⟨hneed, ha, hstore⟩

theorem IsReported.find {before : List Request} {asked : Request}
    (h : IsReported sources before state) (hasked : asked.IsPlain) :
    IsReported sources (before ++ [asked]) ((find sources asked).run state).2 := by
  obtain ⟨next, hrun, hnext⟩ := find_respond sources asked state
  refine ⟨(find_ensures hasked state h.sound).2, fun request hrequest hstore => ?_⟩
  have hsplit (p : Request → Prop) :
      (∀ earlier ∈ before ++ [asked], p earlier) ↔ (∀ earlier ∈ before, p earlier) ∧ p asked := by
    simp only [List.mem_append, List.mem_singleton, or_imp, forall_and, forall_eq]
  rw [hrun, hnext request, hsplit]
  by_cases hkey : request.key = asked.key
  · have hstore' : sources.search? asked.operations asked.type = none :=
      (hasked.search?_eq hrequest hkey.symm).trans hstore
    have hkept : state.kept? asked = state.kept? request := by
      rw [LookupState.kept?, LookupState.kept?, hkey]
    rw [if_pos hkey, respond_eq_none hstore', hkept, h.kept request hrequest hstore]
    exact and_congr_right' ⟨fun hnot _ => hnot, fun hnot => hnot hkey.symm⟩
  · rw [if_neg hkey, h.kept request hrequest hstore]
    exact (and_iff_left fun heq => absurd heq.symm hkey).symm

theorem isReported_after {requests : List Request} (h : ∀ request ∈ requests, request.IsPlain) :
    IsReported sources requests (after sources requests) := by
  induction requests using List.reverseRecOn with
  | nil => exact isReported_empty sources
  | append_singleton requests request ih =>
    rw [after_concat]
    exact (ih fun r hr => h r (List.mem_append_left _ hr)).find
      (h request (List.mem_append_right _ List.mem_cons_self))

/-- The request misses, and no request with its key did so before. -/
def IsFirstMiss (sources : Sources) (before : List Request) (request : Request) : Prop :=
  request.Misses sources ∧
    ∀ earlier ∈ before, earlier.key = request.key → ¬earlier.Misses sources

instance (sources : Sources) (before : List Request) (request : Request) :
    Decidable (IsFirstMiss sources before request) :=
  inferInstanceAs (Decidable (_ ∧ _))

/-- **The first miss is reported** and no other. -/
theorem misses_after_concat {before : List Request} (h : ∀ r ∈ before, r.IsPlain)
    (hrequest : request.IsPlain) :
    Diagnostic.misses (after sources (before ++ [request])).diagnostics =
      Diagnostic.misses (after sources before).diagnostics ++
        if IsFirstMiss sources before request then [request.miss] else [] := by
  have hfirst : request.Misses sources ∧ (after sources before).kept? request = none ↔
      IsFirstMiss sources before request :=
    and_congr_right fun hmisses => (isReported_after h).kept request hrequest hmisses.store
  rw [after_concat, misses_find]
  simp only [hfirst]

/-- How many misses are reported by those requests that have a key. -/
def reportCount (sources : Sources) (key : String × String) :
    List Request → List Request → Nat
  | _, [] => 0
  | before, request :: rest =>
    (if request.key = key then
        (Diagnostic.misses (after sources (before ++ [request])).diagnostics).length -
          (Diagnostic.misses (after sources before).diagnostics).length
      else 0) + reportCount sources key (before ++ [request]) rest

theorem reportCount_eq (key : String × String) {before requests : List Request}
    (h : ∀ request ∈ before ++ requests, request.IsPlain) :
    reportCount sources key before requests =
      if (∀ earlier ∈ before, earlier.key = key → ¬earlier.Misses sources) ∧
        ∃ request ∈ requests, request.key = key ∧ request.Misses sources then 1 else 0 := by
  induction requests generalizing before with
  | nil => simp [reportCount]
  | cons request rest ih =>
    have hbefore : ∀ r ∈ before, r.IsPlain := fun r hr => h r (List.mem_append_left _ hr)
    have hrequest := h request (List.mem_append_right _ List.mem_cons_self)
    rw [reportCount, ih (by simpa using h), misses_after_concat hbefore hrequest,
      List.length_append, Nat.add_sub_cancel_left]
    by_cases hkey : request.key = key
    · subst hkey
      by_cases hmisses : request.Misses sources
      · by_cases hearlier : ∀ earlier ∈ before, earlier.key = request.key →
            ¬earlier.Misses sources
        · rw [if_pos rfl, if_pos ⟨hmisses, hearlier⟩, if_neg, if_pos]
          · rfl
          · exact ⟨hearlier, request, List.mem_cons_self, rfl, hmisses⟩
          · exact fun hno => hno.1 request (List.mem_append_right _ List.mem_cons_self) rfl hmisses
        · rw [if_pos rfl, if_neg fun hfirst => hearlier hfirst.2, if_neg, if_neg]
          · rfl
          · exact fun hno => hearlier hno.1
          · exact fun hno => hearlier fun e he => hno.1 e (List.mem_append_left _ he)
      · rw [if_pos rfl, if_neg fun hfirst => hmisses hfirst.1]
        simp [hmisses, or_imp, forall_and]
    · rw [if_neg hkey]
      simp [hkey, or_imp, forall_and]

/-! ## Calls -/

/-- A request by itself, or one for each of some parameters that has no typemap of its own. -/
inductive Call
  | find (request : Request)
  | attach (operation : String) (need : Need) (location : Location)
    (parameters : List Parameter)

namespace Call

/-- The request for a parameter. -/
def requestFor (operation : String) (need : Need) (location : Location) (parameter : Parameter) :
    Request where
  operation := operation
  type := parameter.type
  need := need
  location := location

/-- Make a call: the answer to the request, or what each parameter has for the operation then. -/
def run (sources : Sources) : Call → Lookup (List (Option Typemap))
  | find request => do return [← Lookup.find sources request]
  | attach operation need location parameters => do
    let attached ← parameters.mapM (Lookup.attach sources operation need location)
    return attached.map (·.find? operation)

/-- The requests that a call asks, in order. -/
def requests : Call → List Request
  | find request => [request]
  | attach operation need location parameters =>
    (parameters.filter fun parameter => !parameter.typemaps.contains operation).map
      (requestFor operation need location)

/-- The answers to a call without any history. -/
def answers (sources : Sources) : Call → List (Option Typemap)
  | find request => [answer? sources request]
  | attach operation need location parameters => parameters.map fun parameter =>
    (parameter.typemaps.find? operation).or
      (answer? sources (requestFor operation need location parameter))

/-- The call asks plain requests only. -/
def IsPlain (call : Call) : Prop := ∀ request ∈ call.requests, request.IsPlain

end Call

theorem state_mapM {α β : Type} (f : α → Lookup β) (xs : List α) (state : LookupState) :
    ((xs.mapM f).run state).2 = xs.foldl (fun state x => ((f x).run state).2) state := by
  induction xs generalizing state with
  | nil => rfl
  | cons x xs ih =>
    rw [List.mapM_cons, List.foldl_cons, ← ih]
    rfl

/-- A parameter with a typemap of its own asks nothing. -/
theorem attach_run (operation : String) (need : Need) (location : Location)
    (parameter : Parameter) (state : LookupState) :
    ((attach sources operation need location parameter).run state).2 =
      if parameter.typemaps.contains operation then state
      else ((Lookup.find sources
        (Call.requestFor operation need location parameter)).run state).2 := by
  unfold attach
  split
  · rfl
  · rw [StateT.run_bind, ← Call.requestFor]
    rcases (Lookup.find sources
      (Call.requestFor operation need location parameter)).run state with ⟨found, next⟩
    cases found <;> rfl

/-- A call does what its requests do. -/
theorem Call.state_run (sources : Sources) (call : Call) (state : LookupState) :
    ((call.run sources).run state).2 =
      call.requests.foldl (fun state request => ((Lookup.find sources request).run state).2)
        state := by
  cases call with
  | find request => rfl
  | attach operation need location parameters =>
    refine (state_mapM (Lookup.attach sources operation need location) parameters state).trans ?_
    rw [requests, List.foldl_map, List.foldl_filter]
    congr 1
    funext state parameter
    rw [attach_run]
    cases parameter.typemaps.contains operation <;> rfl

/-- A call of plain requests gets the answers that it gets without any history. -/
theorem Call.run_ensures {call : Call} (h : call.IsPlain) :
    Ensures (LookupState.Sound sources) (call.run sources) (· = call.answers sources) := by
  cases call with
  | find request =>
    exact (find_ensures (h request List.mem_cons_self)).bind fun found hfound =>
      .pure (by rw [hfound]; rfl)
  | attach operation need location parameters =>
    have hattach : ∀ parameter ∈ parameters, Ensures (LookupState.Sound sources)
        (Lookup.attach sources operation need location parameter) fun attached =>
          attached.find? operation = (parameter.typemaps.find? operation).or
            (answer? sources (requestFor operation need location parameter)) := by
      intro parameter hparameter
      unfold Lookup.attach
      cases hown : parameter.typemaps.find? operation with
      | some typemap =>
        rw [if_pos (by rw [Dict.contains, hown]; rfl)]
        exact .pure hown
      | none =>
        have hcontains : parameter.typemaps.contains operation = false := by
          rw [Dict.contains, hown]
          rfl
        have hplain : (requestFor operation need location parameter).IsPlain := by
          refine h _ (List.mem_map_of_mem (List.mem_filter.2 ⟨hparameter, ?_⟩))
          rw [hcontains]
          rfl
        rw [if_neg (by rw [hcontains]; exact Bool.false_ne_true)]
        refine (find_ensures hplain).bind fun found hfound => ?_
        cases found with
        | some typemap =>
          refine .pure ?_
          rw [Dict.find?_insert, if_pos rfl, hfound]
          rfl
        | none =>
          refine .pure ?_
          rw [hown, ← hfound]
          rfl
    refine (Ensures.mapM hattach).bind fun attached hattached => .pure ?_
    exact (List.forall₂_eq_eq_eq ▸ List.forall₂_map_left_iff.2
      (List.forall₂_map_right_iff.2 (hattached.flip)) : _ = _)

/-- A sequence of calls does what all their requests do, one after the other. -/
theorem Call.state_mapM_run (sources : Sources) (calls : List Call) :
    ((calls.mapM (Call.run sources)).run {}).2 = after sources (calls.flatMap Call.requests) := by
  rw [state_mapM, after, List.foldl_flatMap]
  simp only [Call.state_run]

/-- The answer to a miss is the placeholder for the type. -/
theorem answer?_of_misses (h : request.Misses sources) :
    answer? sources request = some { code := placeholderName request.type } := by
  rw [answer?, h.attached, h.store, h.need]

/-- Where only the need is lacking for a miss, there is no answer. -/
theorem answer?_eq_none (hneed : request.need = .optional) (ha : request.attached? = none)
    (hstore : sources.search? request.operations request.type = none) :
    answer? sources request = none := by
  rw [answer?, ha, hstore, hneed]

/-- **Misses are reported once.** In any sequence of calls that ask plain requests, each request
adds a report of its miss exactly if it misses and no request with its key did before. So for each
key one miss is reported in all if some request with the key misses, and none otherwise. Every call
is answered as it is without any history: all requests with one key that miss with the same
placeholder, and an optional request for what neither is attached nor is in the store with none. -/
theorem misses_reported_once (sources : Sources) {calls : List Call}
    (h : ∀ call ∈ calls, call.IsPlain) :
    let requests := calls.flatMap Call.requests
    let run := (calls.mapM (Call.run sources)).run {}
    run.2 = after sources requests ∧ run.1 = calls.map (Call.answers sources) ∧
      (∀ before request rest, requests = before ++ request :: rest →
        Diagnostic.misses (after sources (before ++ [request])).diagnostics =
          Diagnostic.misses (after sources before).diagnostics ++
            if IsFirstMiss sources before request then [request.miss] else []) ∧
      (∀ key, reportCount sources key [] requests =
        if ∃ request ∈ requests, request.key = key ∧ request.Misses sources then 1 else 0) ∧
      (∀ request ∈ requests, ∀ other ∈ requests, request.key = other.key →
        request.Misses sources → other.Misses sources →
          answer? sources request = some { code := placeholderName request.type } ∧
            answer? sources other = answer? sources request) ∧
      ∀ request ∈ requests, request.need = .optional → request.attached? = none →
        sources.search? request.operations request.type = none →
          answer? sources request = none := by
  intro requests run
  have hplain : ∀ request ∈ requests, request.IsPlain := by
    intro request hrequest
    obtain ⟨call, hcall, hof⟩ := List.mem_flatMap.1 hrequest
    exact h call hcall request hof
  refine ⟨Call.state_mapM_run sources calls, ?_, ?_, ?_, ?_, ?_⟩
  · exact (Ensures.mapM_eq (fun call hcall => Call.run_ensures (h call hcall)) {}
      (LookupState.sound_empty sources)).1
  · intro before request rest heq
    refine misses_after_concat (fun r hr => hplain r ?_) (hplain request ?_)
    · exact heq ▸ List.mem_append_left _ hr
    · exact heq ▸ List.mem_append_right _ List.mem_cons_self
  · intro key
    have hnone : ∀ earlier ∈ ([] : List Request), earlier.key = key →
        ¬earlier.Misses sources := nofun
    exact (reportCount_eq key hplain).trans (if_congr (and_iff_right hnone) rfl rfl)
  · intro request hrequest other hother hkey hmisses hmisses'
    have htype : other.type = request.type :=
      (hplain other hother).isSpelled.eq_of_signature_eq (hplain request hrequest).isSpelled
        (congrArg Prod.snd hkey.symm)
    exact ⟨answer?_of_misses hmisses, by
      rw [answer?_of_misses hmisses', answer?_of_misses hmisses, htype]⟩
  · exact fun request _ => answer?_eq_none

/-- Calls that find templates and calls that find none. -/
def gaugeCalls : List Call := [
  .find (request "ctype" (some "out") (.named "Gauge") .required),
  .find (request "ftype" none doublePointer .optional),
  .attach "ftype" .required {}
    [{ name := "gauge", type := .pointer (.named "Gauge") },
      { name := "p", type := doublePointer }],
  .find (request "ctype" (some "out") (.named "reading_t") .required),
  .find (request "ftype" none doublePointer .required)]
where
  doublePointer : CxxType := .pointer (.pointer (.builtin .double))
  request (operation : String) (suffix : Option String) (type : CxxType) (need : Need) : Request :=
    { operation, suffix, type, need, location := {} }

theorem misses_reported_once_of_gauges : (∀ call ∈ gaugeCalls, call.IsPlain) ∧
    reportCount gauges ("ftype", "double * *") [] (gaugeCalls.flatMap Call.requests) = 1 ∧
    reportCount gauges ("ctype:out", "Gauge") [] (gaugeCalls.flatMap Call.requests) = 0 ∧
    ((gaugeCalls.mapM (Call.run gauges)).run {}).1 =
      [[some { code := "void *" }], [none],
        [some { code := "class(Meter)" }, some { code := "SWIGTYPE_p_p_double" }],
        [some { code := "double" }], [some { code := "SWIGTYPE_p_p_double" }]] := by
  have hread : ∀ call ∈ gaugeCalls, ∀ r ∈ call.requests,
      CxxType.ofSpelling r.type.signature = .ok r.type := by
    decide +kernel
  have hcolon : ∀ call ∈ gaugeCalls, ∀ r ∈ call.requests, ':' ∉ r.operation.toList := by
    decide +kernel
  have hplain : ∀ call ∈ gaugeCalls, call.IsPlain := fun call hcall r hr =>
    ⟨hcolon call hcall r hr, _, hread call hcall r hr⟩
  obtain ⟨-, hanswers, -, hcount, -⟩ := misses_reported_once gauges hplain
  refine ⟨hplain, (hcount _).trans (if_pos ?_), (hcount _).trans (if_neg ?_), hanswers.trans ?_⟩
  · decide +kernel
  · decide +kernel
  · decide +kernel

end Lookup

end FortranBindings
