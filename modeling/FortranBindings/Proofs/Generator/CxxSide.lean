import FortranBindings.Proofs.Generator.Accounts
import FortranBindings.Proofs.Generator.Keeping

/-!
# The C++ side does not depend on the options for Fortran

Two runs on the same declarations and typemaps, whose wrappers have the same prefix, are gone
through side by side. They need not look up the same templates: one of them may make proxies where
the other one does not. But what proxies and derived types ask is never kept where bridges look
(`Request.IsForBridge`), so that both runs always keep the same answers for bridges. Together with
the wrappers, the interfaces, the names that were given away and the errors this is the relation
that each step keeps (`GeneratorState.SameCxxSide`, `Generate.Matches`). The whole runs then fail
alike or give modules with the same C++ source and the same interfaces (`Generate.same_cxxSide`).
-/

namespace FortranBindings

/-! ## Requests of bridges -/

/-- The operations that answers for bridges are kept under. -/
def bridgeOperations : List String :=
  ["in", "ctype", "imtype", "freearg", "check", "argout", "ctype:out", "imtype:out", "out"]

/-- Is the answer to the request kept where answers for bridges are? -/
def Request.IsForBridge (request : Request) : Prop :=
  request.mainOperation ∈ bridgeOperations

theorem Bridge.Asked.isForBridge {callable : Callable} {owner : Option Class} {request : Request}
    (h : Bridge.Asked callable owner request) : request.IsForBridge := by
  cases h with
  | parameter _ hop =>
    have hall : ∀ operation ∈ ["in", "ctype", "imtype"], operation ∈ bridgeOperations := by decide
    exact hall _ hop
  | option _ hop =>
    have hall : ∀ operation ∈ ["freearg", "check", "argout"], operation ∈ bridgeOperations := by
      decide
    exact hall _ hop
  | @result operation suffix hop =>
    have hall : ∀ pair ∈ [("ctype", some "out"), ("imtype", some "out"), ("out", none)],
        (pair.2.elim pair.1 (pair.1 ++ ":" ++ ·)) ∈ bridgeOperations := by decide
    cases suffix with
    | none => exact hall _ hop
    | some suffix => exact hall _ hop

theorem Proxy.Asked.not_isForBridge {bridge : Bridge} {mode : ProxyMode} {request : Request}
    (h : Proxy.Asked bridge mode request) : ¬request.IsForBridge := by
  cases h with
  | parameter _ hop =>
    have hall : ∀ operation ∈ ["ftype", "fin"], operation ∉ bridgeOperations := by decide
    exact hall _ hop
  | option _ hop =>
    have hall : ∀ operation ∈ ["fpre", "fpost"], operation ∉ bridgeOperations := by decide
    exact hall _ hop
  | result =>
    have hout : "ftype:out" ∉ bridgeOperations := by decide
    exact hout
  | body =>
    have hall : ∀ operation ∈ ["fout", "fcreate", "frelease"], operation ∉ bridgeOperations := by
      decide
    have hmem : (bodyOperation bridge mode).1 ∈ ["fout", "fcreate", "frelease"] := by
      cases mode <;> simp [bodyOperation]
    exact hall _ hmem

theorem Proxy.AskedByFinalizer.not_isForBridge {cls : Class} {request : Request}
    (h : Proxy.AskedByFinalizer cls request) : ¬request.IsForBridge := by
  cases h with
  | intro hop =>
    have hall : ∀ operation ∈ ["fin", "frelease"], operation ∉ bridgeOperations := by decide
    exact hall _ hop

theorem not_isForBridge_dataRequest (className : String) (location : Location) :
    ¬(dataRequest className location).IsForBridge := by
  have hdata : "fdata" ∉ bridgeOperations := by decide
  exact hdata

/-- A request that is not for bridges leaves the answers for bridges as they are. -/
theorem Lookup.find_agreeOn {sources : Sources} {start : LookupState} {request : Request}
    (h : ¬request.IsForBridge) :
    Ensures (LookupState.AgreeOn Request.IsForBridge start) (find sources request)
      fun _ => True := by
  intro state hs
  obtain ⟨next, hrun, hnext⟩ := find_respond sources request state
  rw [hrun]
  refine ⟨trivial, hs.trans (.of_keepsFor (fun other hother hkey => h ?_) hnext)⟩
  have hoperation : other.mainOperation = request.mainOperation := congrArg Prod.fst hkey
  rw [Request.IsForBridge, ← hoperation]
  exact hother

/-! ## States with the same C++ side -/

/-- The errors among the diagnostics. -/
def LookupState.errors (state : LookupState) : List Diagnostic :=
  state.diagnostics.filter (·.kind.isError)

/-- Everything in the states that the C++ side of a module depends on is the same. -/
structure GeneratorState.SameCxxSide (state state' : GeneratorState) : Prop where
  answers : LookupState.AgreeOn Request.IsForBridge state.lookups state'.lookups
  errors : state.lookups.errors = state'.lookups.errors
  functionSymbols : state.functionSymbols = state'.functionSymbols
  classSymbols : state.classSymbols = state'.classSymbols
  wrappers : state.parts.wrappers = state'.parts.wrappers
  interfaces : state.parts.interfaces = state'.parts.interfaces
  wrapperNames : state.bindings.map Binding.wrapper = state'.bindings.map Binding.wrapper

namespace GeneratorState.SameCxxSide

variable {state state' next next' : GeneratorState}

protected theorem refl (state : GeneratorState) : state.SameCxxSide state :=
  ⟨fun _ _ => rfl, rfl, rfl, rfl, rfl, rfl, rfl⟩

protected theorem symm (h : state.SameCxxSide state') : state'.SameCxxSide state :=
  ⟨fun request hr => (h.answers request hr).symm, h.errors.symm, h.functionSymbols.symm,
    h.classSymbols.symm, h.wrappers.symm, h.interfaces.symm, h.wrapperNames.symm⟩

protected theorem trans (h : state.SameCxxSide next) (h' : next.SameCxxSide next') :
    state.SameCxxSide next' :=
  ⟨h.answers.trans h'.answers, h.errors.trans h'.errors,
    h.functionSymbols.trans h'.functionSymbols, h.classSymbols.trans h'.classSymbols,
    h.wrappers.trans h'.wrappers, h.interfaces.trans h'.interfaces,
    h.wrapperNames.trans h'.wrapperNames⟩

/-- Steps to the sides of two states keep them the same. -/
theorem beside (h : state.SameCxxSide state') (hnext : state.SameCxxSide next)
    (hnext' : state'.SameCxxSide next') : next.SameCxxSide next' :=
  (hnext.symm.trans h).trans hnext'

/-- The states of the lookups change alike. -/
theorem withLookups (h : state.SameCxxSide state') {lookups lookups' : LookupState}
    (hanswers : LookupState.AgreeOn Request.IsForBridge lookups lookups')
    (herrors : lookups.errors = lookups'.errors) :
    { state with lookups }.SameCxxSide { state' with lookups := lookups' } :=
  ⟨hanswers, herrors, h.functionSymbols, h.classSymbols, h.wrappers, h.interfaces,
    h.wrapperNames⟩

theorem report (h : state.SameCxxSide state') (diagnostic : Diagnostic) :
    { state with lookups := state.lookups.report diagnostic }.SameCxxSide
      { state' with lookups := state'.lookups.report diagnostic } := by
  refine h.withLookups h.answers ?_
  have herrors := h.errors
  unfold LookupState.errors at herrors ⊢
  rw [LookupState.report, LookupState.report, List.filter_append, List.filter_append, herrors]

end GeneratorState.SameCxxSide

/-- The setups make the same wrappers: they differ in the options for Fortran only. -/
structure Setup.SameWrappers (first second : Setup) : Prop where
  sources : first.sources = second.sources
  wrapperPrefix : first.config.wrapperPrefix = second.config.wrapperPrefix

namespace Generate

variable {first second setup : Setup} {α β : Type} {state state' next : GeneratorState}

theorem wrapperName_eq (h : first.SameWrappers second) (callable : Callable)
    (owner : Option Class) :
    wrapperName first callable owner = wrapperName second callable owner := by
  rw [wrapperName, wrapperName, h.wrapperPrefix]

/-! ## Steps side by side -/

/-- Two steps came to the same: they failed with the same error, or gave values that match. -/
inductive SameOutcome (post : α → β → Prop) : Except GenerateError α × GeneratorState →
    Except GenerateError β × GeneratorState → Prop
  | ok {a : α} {b : β} {state state' : GeneratorState} (hpost : post a b)
    (h : state.SameCxxSide state') : SameOutcome post (.ok a, state) (.ok b, state')
  | error (error : GenerateError) {state state' : GeneratorState} (h : state.SameCxxSide state') :
    SameOutcome post (.error error, state) (.error error, state')

/-- From states with the same C++ side the two steps come to the same. -/
def Matches (step : Generate α) (step' : Generate β) (post : α → β → Prop) : Prop :=
  ∀ state state', state.SameCxxSide state' →
    SameOutcome post (step.run.run state) (step'.run.run state')

namespace Matches

variable {γ δ : Type} {post : α → β → Prop} {post' : γ → δ → Prop}

protected theorem pure {a : α} {b : β} (h : post a b) : Matches (pure a) (pure b) post :=
  fun _ _ hs => .ok h hs

protected theorem throw (error : GenerateError) : Matches (throw error) (throw error) post :=
  fun _ _ hs => .error error hs

protected theorem bind {step : Generate α} {step' : Generate β} {f : α → Generate γ}
    {f' : β → Generate δ} (hstep : Matches step step' post)
    (hf : ∀ a b, post a b → Matches (f a) (f' b) post') :
    Matches (step >>= f) (step' >>= f') post' := by
  intro state state' hs
  have houtcome := hstep state state' hs
  generalize hrun : step.run.run state = result at houtcome
  generalize hrun' : step'.run.run state' = result' at houtcome
  cases houtcome with
  | ok hpost hs =>
    rw [run_bind_of_ok hrun, run_bind_of_ok hrun']
    exact hf _ _ hpost _ _ hs
  | error error hs =>
    rw [run_bind_of_error hrun, run_bind_of_error hrun']
    exact .error error hs

protected theorem mono {step : Generate α} {step' : Generate β} {weaker : α → β → Prop}
    (hstep : Matches step step' post) (h : ∀ a b, post a b → weaker a b) :
    Matches step step' weaker := by
  intro state state' hs
  have houtcome := hstep state state' hs
  generalize step.run.run state = result at houtcome ⊢
  generalize step'.run.run state' = result' at houtcome ⊢
  cases houtcome with
  | ok hpost hs => exact .ok (h _ _ hpost) hs
  | error error hs => exact .error error hs

protected theorem modify {f f' : GeneratorState → GeneratorState}
    (h : ∀ state state', state.SameCxxSide state' → (f state).SameCxxSide (f' state')) :
    Matches (modify f) (modify f') fun _ _ => True :=
  fun state state' hs => .ok trivial (h state state' hs)

protected theorem orSkip {step : Generate α} {step' : Generate β} {a : α} {b : β}
    (hstep : Matches step step' post) (hfallback : post a b)
    (wrap : GenerateError → GenerateError) :
    Matches (orSkip step a wrap) (orSkip step' b wrap) post := by
  intro state state' hs
  have houtcome := hstep state state' hs
  generalize hrun : step.run.run state = result at houtcome
  generalize hrun' : step'.run.run state' = result' at houtcome
  cases houtcome with
  | ok hpost hs =>
    rw [orSkip_of_ok hrun, orSkip_of_ok hrun']
    exact .ok hpost hs
  | error error hs =>
    cases hskip : error.isSkip with
    | true =>
      rw [orSkip_of_skip hrun hskip, orSkip_of_skip hrun' hskip]
      exact .ok hfallback hs
    | false =>
      rw [orSkip_of_error hrun hskip, orSkip_of_error hrun' hskip]
      exact .error _ hs

/-- Steps to the side, which do not fail, match each other. -/
theorem beside {left : α → Prop} {right : β → Prop} {step : Generate α} {step' : Generate β}
    (hstep : ∀ state, ∃ a next, step.run.run state = (.ok a, next) ∧ left a ∧
      state.SameCxxSide next)
    (hstep' : ∀ state, ∃ b next, step'.run.run state = (.ok b, next) ∧ right b ∧
      state.SameCxxSide next) :
    Matches step step' fun a b => left a ∧ right b := by
  intro state state' hs
  obtain ⟨a, next, hrun, hleft, hnext⟩ := hstep state
  obtain ⟨b, next', hrun', hright, hnext'⟩ := hstep' state'
  rw [hrun, hrun']
  exact .ok ⟨hleft, hright⟩ (hs.beside hnext hnext')

end Matches

/-! ## Callables -/

theorem takeSymbol_matches (name : String) (location : Location) :
    Matches (takeSymbol name location) (takeSymbol name location) fun _ _ => True := by
  intro state state' hs
  cases hfind : state.functionSymbols.find? name with
  | none =>
    have hfind' := hs.functionSymbols ▸ hfind
    rw [takeSymbol_of_free hfind, takeSymbol_of_free hfind']
    refine .ok trivial { hs with functionSymbols := ?_ }
    dsimp only
    rw [hs.functionSymbols]
  | some previous =>
    have hfind' := hs.functionSymbols ▸ hfind
    rw [takeSymbol_of_taken hfind, takeSymbol_of_taken hfind']
    exact .error _ (hs.report _)

theorem make_matches (sources : Sources) (callable : Callable) (owner : Option Class)
    (name : String) :
    Matches (ofFailingLookup (Bridge.make sources callable owner name))
      (ofFailingLookup (Bridge.make sources callable owner name))
      (· = ·) := by
  intro state state' hs
  let make := (Bridge.make sources callable owner name).run
  have hasks : Lookup.Asks sources Request.IsForBridge make :=
    (Bridge.make_asks callable owner name).mono fun _ hr => hr.isForBridge
  have herrors : ∀ lookups, (make.run lookups).2.errors = lookups.errors := fun lookups =>
    (hasks.extends lookups).errors
  obtain ⟨hvalue, hanswers⟩ := hasks.agree hs.answers
  have hnext := hs.withLookups hanswers
    ((herrors _).trans (hs.errors.trans (herrors _).symm))
  rw [ofFailingLookup_run, ofFailingLookup_run]
  rw [← hvalue]
  cases hresult : (make.run state.lookups).1 with
  | ok made => exact .ok rfl hnext
  | error e => exact .error e hnext

theorem bridge_matches (h : first.SameWrappers second) (callable : Callable)
    (owner : Option Class) :
    Matches (bridge first callable owner) (bridge second callable owner) (· = ·) := by
  unfold bridge
  rw [← h.sources, ← wrapperName_eq h]
  dsimp only
  split
  · exact (takeSymbol_matches _ _).bind fun _ _ _ => make_matches _ _ _ _
  · exact make_matches _ _ _ _

/-- What asks nothing for bridges keeps the answers for bridges. -/
theorem keeps_agreeOn {sort : Request → Prop} (h : ∀ request, sort request → ¬request.IsForBridge)
    (setup : Setup) (start : LookupState) :
    Keeps setup sort (LookupState.AgreeOn Request.IsForBridge start) :=
  ⟨fun request hr => Lookup.find_agreeOn (h request hr), fun _ _ _ hs => hs⟩

/-- Making a bridge accessible is a step to the side. -/
theorem expose_beside (setup : Setup) (callable : Callable) (bridge : Bridge)
    (opened : Option OpenClass) (state : GeneratorState) :
    ∃ exposed next, (expose setup callable bridge opened).run.run state = (.ok exposed, next) ∧
      exposed.2.map OpenClass.cls = opened.map OpenClass.cls ∧ state.SameCxxSide next := by
  obtain ⟨bound, next, hrun, hbound, hnext, -⟩ := expose_run setup callable bridge opened state
  have hkeeps : EnsuresOk (fun next =>
        LookupState.AgreeOn Request.IsForBridge state.lookups next.lookups)
      (expose setup callable bridge opened)
      fun exposed => exposed.2.map OpenClass.cls = opened.map OpenClass.cls :=
    expose_keeps (keeps_agreeOn (fun _ hr => hr.not_isForBridge) _ _) fun _ _ =>
      keeps_agreeOn (fun _ hr => hr.not_isForBridge) _ _
  have hanswers := (hkeeps state fun _ _ => rfl).2
  rw [hrun] at hanswers
  refine ⟨_, next, hrun, ?_, ?_⟩
  · rw [← map_fst_ownerOf, ← map_fst_ownerOf, hbound.ownerOf]
  · exact {
      answers := hanswers
      errors := hnext.lookups.errors.symm
      functionSymbols := hnext.functionSymbols.symm
      classSymbols := hnext.classSymbols.symm
      wrappers := hnext.wrappers.symm
      interfaces := hnext.interfaces.symm
      wrapperNames := congrArg (List.map Binding.wrapper) hnext.bindings.symm }

/-- The step goes on with an open class for the same class. -/
def SameClass (opened opened' : Option OpenClass) : Prop :=
  opened.map OpenClass.cls = opened'.map OpenClass.cls

theorem function_matches (h : first.SameWrappers second) (callable : Callable)
    {opened opened' : Option OpenClass} (ho : SameClass opened opened') :
    Matches (function first callable opened) (function second callable opened') SameClass := by
  unfold function
  dsimp only
  rw [← ho]
  split
  · exact .throw _
  · refine (bridge_matches h callable _).bind fun made made' hmade => ?_
    subst hmade
    refine Matches.bind (Matches.modify fun state state' hs => ?_) fun _ _ _ => ?_
    · exact { hs with
        wrappers := congrArg (· ++ _) hs.wrappers
        interfaces := congrArg (· ++ _) hs.interfaces }
    refine (Matches.beside (expose_beside first callable made opened)
      (expose_beside second callable made opened')).bind fun exposed exposed' hexposed => ?_
    refine Matches.bind (Matches.modify fun state state' hs => ?_) fun _ _ _ => ?_
    · refine { hs with wrapperNames := ?_ }
      dsimp only
      rw [List.map_append, List.map_append, hs.wrapperNames]
      rfl
    · exact .pure (hexposed.1.trans (ho.trans hexposed.2.symm))

/-! ## Classes -/

theorem openClass_matches (cls : Class) :
    Matches (openClass cls) (openClass cls) fun opened opened' =>
      SameClass (some opened) (some opened') := by
  intro state state' hs
  cases hfind : state.classSymbols.find? cls.publicName with
  | some previous =>
    have hfind' := hs.classSymbols ▸ hfind
    rw [openClass_of_taken hfind, openClass_of_taken hfind']
    exact .error _ (hs.report _)
  | none =>
    have hfind' := hs.classSymbols ▸ hfind
    rw [openClass_of_free hfind, openClass_of_free hfind']
    have hremarked : { state with lookups := remarkBases cls state.lookups }.SameCxxSide
        { state' with lookups := remarkBases cls state'.lookups } := by
      unfold remarkBases
      split
      · exact hs.report _
      · exact hs
    refine .ok rfl { hremarked with classSymbols := ?_ }
    dsimp only
    rw [hs.classSymbols]

theorem dataLines_beside (setup : Setup) (className : String) (location : Location)
    (state : GeneratorState) :
    ∃ data next, (dataLines setup className location).run.run state = (.ok data, next) ∧
      next.parts = state.parts ∧ state.SameCxxSide next := by
  obtain ⟨data, lookups, hrun, hlookups⟩ := dataLines_run setup className location state
  have hkeeps : EnsuresOk (fun next =>
        LookupState.AgreeOn Request.IsForBridge state.lookups next.lookups)
      (dataLines setup className location) fun _ => True :=
    dataLines_keeps (keeps_agreeOn (by rintro _ rfl; exact not_isForBridge_dataRequest _ _) _ _)
  have hanswers := (hkeeps state fun _ _ => rfl).2
  rw [hrun] at hanswers
  exact ⟨data, _, hrun, rfl,
    (GeneratorState.SameCxxSide.refl state).withLookups hanswers hlookups.errors.symm⟩

theorem closeClass_beside (setup : Setup) (opened : OpenClass) (state : GeneratorState) :
    ∃ closed next, (closeClass setup opened).run.run state = (.ok closed, next) ∧ True ∧
      state.SameCxxSide next := by
  unfold closeClass
  split
  · obtain ⟨data, next, hrun, -, hnext⟩ :=
      dataLines_beside setup opened.cls.name opened.cls.location state
    exact ⟨(), _, run_bind_of_ok hrun, trivial, { hnext with }⟩
  · exact ⟨(), state, rfl, trivial, .refl state⟩

theorem members_matches (h : first.SameWrappers second) (cls : Class) (callables : List Callable)
    {opened opened' : OpenClass} (ho : SameClass (some opened) (some opened')) :
    Matches (members first cls callables opened) (members second cls callables opened')
      fun last last' => SameClass (some last) (some last') := by
  induction callables generalizing opened opened' with
  | nil => exact .pure ho
  | cons callable rest ih =>
    rw [members, members]
    refine ((function_matches h callable ho).orSkip ho _).bind fun next next' hnext => ih ?_
    cases next <;> cases next' <;> first | exact ho | exact hnext | cases hnext

theorem cls_matches (h : first.SameWrappers second) (cls : Class) :
    Matches (Generate.cls first cls) (Generate.cls second cls) fun _ _ => True := by
  refine (openClass_matches cls).bind fun opened opened' ho => ?_
  refine (members_matches h cls cls.members ho).bind fun last last' _ => ?_
  exact (Matches.beside (closeClass_beside first last) (closeClass_beside second last')).mono
    fun _ _ _ => trivial

/-! ## Items -/

theorem item_matches (h : first.SameWrappers second) (item : Item) :
    Matches (Generate.item first item) (Generate.item second item) fun _ _ => True := by
  cases item with
  | function callable =>
    exact ((function_matches h callable rfl).orSkip rfl _).bind fun _ _ _ => .pure trivial
  | cls cls => exact (cls_matches h cls).orSkip trivial id
  | enumeration enumeration => exact .modify fun state state' hs => { hs with }

theorem forM_matches (h : first.SameWrappers second) (items : List Item) :
    Matches (items.forM (Generate.item first)) (items.forM (Generate.item second))
      fun _ _ => True := by
  induction items with
  | nil => exact .pure trivial
  | cons item items ih => exact (item_matches h item).bind fun _ _ _ => ih

theorem shells_beside (setup : Setup) (names : List String) (state : GeneratorState) :
    ∃ next, (shells setup names).run.run state = (.ok (), next) ∧ state.SameCxxSide next := by
  induction names generalizing state with
  | nil => exact ⟨state, rfl, .refl state⟩
  | cons name names ih =>
    obtain ⟨data, next, hrun, -, hnext⟩ := dataLines_beside setup name {} state
    let added : GeneratorState :=
      { next with parts := { next.parts with types := next.parts.types ++ [.shell name data] } }
    have hadded : state.SameCxxSide added := { hnext with }
    obtain ⟨last, hrest, hlast⟩ := ih added
    refine ⟨last, ?_, hadded.trans hlast⟩
    rw [shells, run_bind_of_ok hrun]
    exact (run_bind_of_ok rfl).trans hrest

/-- Finishing a module is a step to the side. -/
theorem finish_beside (setup : Setup) (state : GeneratorState) :
    ∃ next, (finish setup).run.run state = (.ok (writtenOut setup next), next) ∧
      state.SameCxxSide next := by
  obtain ⟨next, hshells, hnext⟩ := shells_beside setup state.lookups.opaqueTypes state
  have hget : (get : Generate GeneratorState).run.run state = (.ok state, state) := rfl
  refine ⟨next, ?_, hnext⟩
  rw [finish, run_bind_of_ok hget, run_bind_of_ok hshells]
  rfl

/-! ## Whole runs -/

/-- The two runs fail with the same error, or write out states with the same C++ side. -/
theorem generate_alike (h : first.SameWrappers second) :
    (∃ error, generate first = .error error ∧ generate second = .error error) ∨
      generate first = .ok (writtenOut first (finalState first)) ∧
      generate second = .ok (writtenOut second (finalState second)) ∧
      (finalState first).SameCxxSide (finalState second) := by
  have hall : Matches (all first) (all second) fun _ _ => True := by
    unfold all
    rw [← h.sources]
    exact forM_matches h _
  have houtcome := hall {} {} (.refl {})
  generalize hrun : (all first).run.run {} = result at houtcome
  generalize hrun' : (all second).run.run {} = result' at houtcome
  unfold generate finalState
  rw [seqRight_eq_bind, seqRight_eq_bind]
  cases houtcome with
  | error error hs =>
    rw [run_bind_of_error hrun, run_bind_of_error hrun']
    exact .inl ⟨error, rfl, rfl⟩
  | @ok _ _ state state' _ hs =>
    obtain ⟨next, hfinish, hnext⟩ := finish_beside first state
    obtain ⟨next', hfinish', hnext'⟩ := finish_beside second state'
    rw [run_bind_of_ok hrun, run_bind_of_ok hrun', hfinish, hfinish']
    exact .inr ⟨rfl, rfl, hs.beside hnext hnext'⟩

end Generate

namespace ModuleParts

/-- The block of interfaces in a Fortran source. -/
def interfaceBlock (interfaces : List BindInterface) : String :=
  let text := String.join (interfaces.map BindInterface.render)
  if text.isEmpty then "" else "\n interface\n" ++ text ++ " end interface\n"

/-- What stands in front of the interfaces in the Fortran source. -/
def beforeInterfaces (parts : ModuleParts) (config : Config) (name : String) : String :=
  "module " ++ name ++ "\n use, intrinsic :: ISO_C_BINDING\n" ++
    String.join (config.imports.map fun other => " use " ++ other ++ "\n") ++
    " implicit none\n private\n" ++
    precededBy "\n" (String.join (parts.publics.map fun names =>
      " public :: " ++ ", ".intercalate names ++ "\n")) ++
    precededBy "\n" (String.join (parts.types.map TypeBlock.render)) ++
    precededBy "\n" parts.overloads.moduleInterfaces

/-- What stands behind the interfaces in the Fortran source. -/
def afterInterfaces (parts : ModuleParts) (name : String) : String :=
  precededBy "\ncontains\n" (String.join (parts.routines.map Routine.render)) ++
    "\nend module " ++ name ++ "\n"

theorem fortranSource_eq (parts : ModuleParts) (config : Config) (name : String) :
    parts.fortranSource config name = parts.beforeInterfaces config name ++
      interfaceBlock parts.interfaces ++ parts.afterInterfaces name := by
  unfold afterInterfaces
  rw [← String.append_assoc, ← String.append_assoc, ← String.append_assoc]
  rfl

end ModuleParts

namespace Generate

/-- Is a name reported that was given away before? -/
def isDuplicate (diagnostic : Diagnostic) : Bool :=
  diagnostic.kind = .duplicateSymbol ∨ diagnostic.kind = .duplicateClass

theorem filter_isDuplicate (diagnostics : List Diagnostic) :
    diagnostics.filter isDuplicate = diagnostics.filter (·.kind.isError) := by
  refine List.filter_congr fun diagnostic _ => ?_
  unfold isDuplicate
  cases diagnostic.kind <;> rfl

/-- **The C++ side does not depend on the options for Fortran.** For all declarations and typemaps
and any two configurations with the same prefix for wrappers, both runs fail with the same error, or
both give a module. The two modules have the same C++ source, the same interfaces in their Fortran
sources, the same names of wrappers and the same reports of duplicates, each in the same order. -/
theorem same_cxxSide (sources : Sources) {config config' : Config}
    (h : config.wrapperPrefix = config'.wrapperPrefix) :
    let first : Setup := ⟨sources, config⟩
    let second : Setup := ⟨sources, config'⟩
    (∀ error, generate first = .error error ↔ generate second = .error error) ∧
    ∀ module module', generate first = .ok module → generate second = .ok module' →
      module.cxxSource = module'.cxxSource ∧
      (∃ block, block = ModuleParts.interfaceBlock (finalState first).parts.interfaces ∧
        module.fortranSource =
          (finalState first).parts.beforeInterfaces first.config first.moduleName ++ block ++
            (finalState first).parts.afterInterfaces first.moduleName ∧
        module'.fortranSource =
          (finalState second).parts.beforeInterfaces second.config second.moduleName ++ block ++
            (finalState second).parts.afterInterfaces second.moduleName) ∧
      module.bindings.map Binding.wrapper = module'.bindings.map Binding.wrapper ∧
      module.diagnostics.filter isDuplicate = module'.diagnostics.filter isDuplicate := by
  intro first second
  have hwrappers : first.SameWrappers second := ⟨rfl, h⟩
  rcases generate_alike hwrappers with ⟨error, hfirst, hsecond⟩ | ⟨hfirst, hsecond, hsame⟩
  · rw [hfirst, hsecond]
    exact ⟨fun _ => Iff.rfl, nofun⟩
  · rw [hfirst, hsecond]
    refine ⟨fun _ => ⟨nofun, nofun⟩, ?_⟩
    rintro _ _ ⟨⟩ ⟨⟩
    refine ⟨?_, ⟨_, rfl, ?_, ?_⟩, hsame.wrapperNames, ?_⟩
    · rw [writtenOut, writtenOut, ModuleParts.cxxSource, ModuleParts.cxxSource, hsame.wrappers]
    · exact ModuleParts.fortranSource_eq _ _ _
    · rw [hsame.interfaces]
      exact ModuleParts.fortranSource_eq _ _ _
    · exact (filter_isDuplicate _).trans (hsame.errors.trans (filter_isDuplicate _).symm)

/-- A configuration without proxies for another module. -/
def flatConfig : Config where
  moduleName := "flat"
  proxyClasses := false
  finalizers := true
  proxyPrefix := "other_"
  imports := ["sensors"]

theorem same_cxxSide_of_flat :
    ({} : Config).wrapperPrefix = flatConfig.wrapperPrefix ∧
    ∃ module module', generate ⟨repeatedSetup.sources, {}⟩ = .ok module ∧
      generate ⟨repeatedSetup.sources, flatConfig⟩ = .ok module' ∧
      module.cxxSource = module'.cxxSource ∧
      module'.bindings.map Binding.wrapper =
        ["swigc_reset", "swigc_Sensor_read", "swigc_mix_1", "swigc_mix_2"] ∧
      (module'.diagnostics.filter isDuplicate).map Diagnostic.kind =
        [.duplicateSymbol, .duplicateSymbol, .duplicateClass] := by
  have hwrappers : ({} : Config).wrapperPrefix = flatConfig.wrapperPrefix := rfl
  have hkind : ∀ f ∈ repeatedSetup.sources.decls.functions, f.kind = .freeFunction := by decide
  have hkind' : ∀ f ∈ (⟨repeatedSetup.sources, flatConfig⟩ : Setup).sources.decls.functions,
      f.kind = .freeFunction := hkind
  obtain ⟨shells, hmodule, hstate, -, -⟩ := generate_describes hkind
  obtain ⟨shells', hmodule', -, -, -⟩ := generate_describes hkind'
  obtain ⟨hcxx, -, hbindings, hduplicates⟩ :=
    (same_cxxSide repeatedSetup.sources hwrappers).2 _ _ hmodule hmodule'
  refine ⟨hwrappers, _, _, hmodule, hmodule', hcxx, ?_, ?_⟩
  · rw [← hbindings, writtenOut, hstate.holds.bindings]
    decide +kernel
  · rw [← hduplicates, filter_isDuplicate, writtenOut_diagnostics, hstate.holds.errors]
    decide +kernel

end Generate

end FortranBindings
