import FortranBindings.Generator
import FortranBindings.Proofs.Generator.Settled

/-!
# Arguments in lockstep

A step that makes a bridge keeps what its lookups keep (`Generate.bridge_ensures`), and a step that
makes a proxy always succeeds (`Generate.proxy_run`). So whenever a bridge was made, and whatever
proxy is made from it later, the C header, the Fortran interface and the proxy go through the same
parameters in the same order (`Generate.arguments_in_lockstep`).
-/

namespace FortranBindings

/-- If all kept answers are sound, the code that a proxy passes its arguments with is found without
any history. -/
theorem Proxy.Agrees.of_sound {sources : Sources} {state : LookupState} {location : Location}
    {mode : ProxyMode} {bridge : Bridge} {names : List String} {proxy : Proxy}
    (h : proxy.Agrees (Lookup.Gives sources bridge.lookupTypes state) location mode bridge names)
    (hstate : state.Sound sources) (hbridge : bridge.IsSpelled) :
    proxy.Agrees (fun request code =>
        code = ((Lookup.answer? sources request).map Typemap.code).getD "")
      location mode bridge names := by
  refine ⟨h.length_names, h.dummyArguments, h.length_callArguments, h.callArguments.imp ?_,
    h.declared_once, h.source⟩
  rintro dummy argument ⟨parameter, attachments, code, hparameter, hattachments, hcode, hargument⟩
  have hplain : (finRequest location parameter attachments).IsPlain :=
    Request.isPlain_mk (by decide) (hbridge.parameters _ (List.mem_of_getElem? hparameter))
  have hanswer := hcode.eq_answer hstate hbridge.of_mem_lookupTypes hplain
  exact ⟨parameter, attachments, code, hparameter, hattachments, hanswer, hargument⟩

namespace Generate

variable {setup : Setup} {keeps : LookupState → Prop} {α : Type} {post : α → Prop}

/-! ## Steps that look templates up -/

theorem ofLookup_ensures {lookup : Lookup α} (h : Ensures keeps lookup post) :
    EnsuresOk (fun state => keeps state.lookups) (ofLookup lookup) post := by
  intro state hs
  refine ⟨fun a ha => ?_, (h state.lookups hs).2⟩
  exact Except.ok.inj ha ▸ (h state.lookups hs).1

theorem ofFailingLookup_ensures {lookup : ExceptT GenerateError Lookup α}
    (h : EnsuresOk keeps lookup post) :
    EnsuresOk (fun state => keeps state.lookups) (ofFailingLookup lookup) post := by
  refine (ofLookup_ensures h).bind fun result hresult => ?_
  cases result with
  | ok a => exact .pure (hresult a rfl)
  | error e => exact .throw

theorem report_ensures {kind : DiagnosticKind} {location : Location} {message : String}
    (h : ∀ state, keeps state → keeps (state.report ⟨kind, location, message⟩)) :
    EnsuresOk (fun state => keeps state.lookups) (report kind location message) fun _ => True :=
  ofLookup_ensures (.modify h)

theorem takeSymbol_ensures
    (h : ∀ state diagnostic, diagnostic.kind.isError = true → keeps state →
      keeps (state.report diagnostic))
    (name : String) (location : Location) :
    EnsuresOk (fun state => keeps state.lookups) (takeSymbol name location) fun _ => True := by
  unfold takeSymbol
  refine EnsuresOk.get.bind fun state _ => ?_
  cases state.functionSymbols.register name location with
  | ok functionSymbols => exact .modify fun state hs => hs
  | error previous => exact (report_ensures fun state hs => h state _ rfl hs).bind fun _ _ => .throw

/-- A step that makes a bridge keeps what the lookups of the bridge keep. -/
theorem bridge_ensures {callable : Callable} {owner : Option Class} {post : Bridge → Prop}
    (hreport : ∀ state diagnostic, diagnostic.kind.isError = true → keeps state →
      keeps (state.report diagnostic))
    (hmake : EnsuresOk keeps
      (Bridge.make setup.sources callable owner (wrapperName setup callable owner)) post) :
    EnsuresOk (fun state => keeps state.lookups) (bridge setup callable owner) post := by
  have hrest := ofFailingLookup_ensures hmake
  unfold bridge
  dsimp only
  split
  · exact (takeSymbol_ensures hreport _ _).bind fun _ _ => hrest
  · exact hrest

/-- A bridge that is made is aligned, with the parameters and the result of its declaration. -/
theorem bridge_aligned (callable : Callable) (owner : Option Class) :
    EnsuresOk (fun _ => True) (bridge setup callable owner) fun made =>
      made.IsAligned ∧ made.parameters = callable.parametersIn owner ∧
        made.result = callable.resultIn owner :=
  bridge_ensures (fun _ _ _ _ => trivial) (Bridge.make_ensures callable owner _)

/-- A proxy is always made, whatever has been generated before. -/
theorem proxy_run (callable : Callable) (mode : ProxyMode) (bridge : Bridge)
    (opened : Option OpenClass) (state : GeneratorState) :
    ∃ next, ((proxy setup callable mode bridge opened).run.run state).1 =
      .ok (((Proxy.make setup.sources setup.config callable mode bridge
        (opened.map fun o => (o.cls, o.name))).run state.lookups).1, next) := by
  -- Where the proxy is bound depends on these cases only, and none of them fails.
  cases opened with
  | some o =>
    cases ho : callable.overload with
    | some overload => exact ⟨_, by simp only [proxy, bindProxy, ho]; rfl⟩
    | none => exact ⟨_, by simp only [proxy, bindProxy, ho]; rfl⟩
  | none =>
    cases ho : callable.isOverloaded with
    | true => exact ⟨none, by simp only [proxy, bindProxy, ho]; rfl⟩
    | false => exact ⟨none, by simp only [proxy, bindProxy, ho]; rfl⟩

/-! ## Lockstep -/

/-- **Arguments are in lockstep.** A bridge that was made takes exactly the arguments for the
parameters with input, numbered after their positions. Its C header and its Fortran interface list
and declare them in this order, and so does each proxy that is made from it later: it has one dummy
argument for each of them, behind `self` for a constructor, declared on one line, and passes for
each the parameter's code for `fin` with the name of the dummy argument put in. -/
theorem arguments_in_lockstep {callable : Callable} {owner : Option Class}
    {state : GeneratorState} {bridge : Bridge}
    (h : ((Generate.bridge setup callable owner).run.run state).1 = .ok bridge) :
    bridge.ListsArguments ∧ ∀ later mode opened, ∃ proxy next names,
      ((Generate.proxy setup callable mode bridge opened).run.run later).1 = .ok (proxy, next) ∧
      proxy.Agrees (Lookup.Gives setup.sources bridge.lookupTypes later.lookups)
        callable.location mode bridge names ∧
      (later.lookups.Sound setup.sources → bridge.IsSpelled →
        proxy.Agrees (fun request code =>
            code = ((Lookup.answer? setup.sources request).map Typemap.code).getD "")
          callable.location mode bridge names) := by
  have haligned := ((bridge_aligned callable owner state trivial).1 bridge h).1
  refine ⟨haligned.listsArguments, fun later mode opened => ?_⟩
  obtain ⟨next, hrun⟩ := proxy_run callable mode bridge opened later
  obtain ⟨names, hnames⟩ := (Proxy.make_ensures haligned.length_attachments setup.config
    callable mode (opened.map fun o => (o.cls, o.name)) later.lookups .refl).1
  refine ⟨_, next, names, hrun, hnames, fun hsound hspelled => ?_⟩
  exact hnames.of_sound hsound hspelled

/-- A store that has the name of each operation as its code. -/
def echoSetup : Setup where
  sources := ⟨{ name := "" }, fun operation _ => some { code := operation }⟩
  config := {}

/-- A function of an array whose length the caller does not give. -/
def hiddenLength : Callable where
  name := "sum"
  kind := .freeFunction
  parameters := [
    { name := "data", type := .pointer (.builtin .double) },
    { name := "n", type := .builtin .int,
      typemaps := Dict.ofList [("in", { code := "", numInputs := some 0 })] },
    { name := "step", type := .builtin .int }]
  action := some "sum(arg1, arg2, arg3);"

theorem arguments_in_lockstep_of_hiddenLength :
    ∃ bridge, ((Generate.bridge echoSetup hiddenLength none).run.run {}).1 = .ok bridge ∧
      bridge.arguments = ["farg1", "farg3"] ∧
      ∃ proxy next names,
        ((Generate.proxy echoSetup hiddenLength .function bridge none).run.run {}).1 =
          .ok (proxy, next) ∧
        names.length = 2 ∧ proxy.routine.dummyArguments = names := by
  obtain ⟨made, hmade, hpositions⟩ : ∃ made,
      ((Generate.bridge echoSetup hiddenLength none).run.run {}).1 = .ok made ∧
        made.inputPositions = [0, 2] :=
    ⟨_, rfl, by decide⟩
  obtain ⟨hlists, hproxies⟩ := arguments_in_lockstep hmade
  obtain ⟨proxy, next, names, hproxy, hagrees, _⟩ := hproxies {} .function none
  refine ⟨made, hmade, ?_, proxy, next, names, hproxy, ?_, hagrees.dummyArguments⟩
  · rw [hlists.arguments, hpositions]
    rfl
  · rw [hagrees.length_names, hpositions]
    rfl

end Generate

end FortranBindings
