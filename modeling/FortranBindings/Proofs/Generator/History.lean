import FortranBindings.Proofs.Generator.Keeping

/-!
# What was generated before does not show

The steps of generation for declarations whose types can be read, of a library whose classes have
plain names, keep all kept answers sound (`Generate.Command.run_sound`). So in two states that such
steps lead to, the same declaration gets the same bridge and the same proxy
(`Generate.Reachable.history_independent`).
-/

namespace FortranBindings

namespace Generate

variable {setup : Setup}

/-- All answers that were kept are sound. -/
def IsSound (setup : Setup) (state : GeneratorState) : Prop :=
  state.lookups.Sound setup.sources

/-- Plain requests keep the kept answers sound. -/
theorem keeps_sound {sort : Request → Prop} (h : ∀ request, sort request → request.IsPlain) :
    Keeps setup sort (LookupState.Sound setup.sources) :=
  ⟨fun request hr => (Lookup.find_ensures (h request hr)).mono fun _ _ => trivial,
    fun _ _ _ hs => hs.report _⟩

/-- From all sound states a declaration gets the same bridge, if it gets one. -/
theorem bridge_settled {callable : Callable} {owner : Option Class} (h : callable.IsSpelled)
    (ho : ∀ cls ∈ owner, cls.HasPlainName) :
    ∃ result : Except GenerateError Bridge,
      EnsuresOk (IsSound setup) (bridge setup callable owner) fun made => result = .ok made := by
  have hmake : (Bridge.make setup.sources callable owner
      (wrapperName setup callable owner)).run.Settled setup.sources := Bridge.make_settled h ho _
  obtain ⟨result, hresult⟩ := hmake
  exact ⟨result, bridge_ensures (fun _ _ _ hs => hs.report _)
    (hresult.mono fun _ hr made hmade => hr.symm.trans hmade)⟩

/-! ## Runs -/

/-- A step of generation that can be taken by itself. -/
inductive Command
  | bridge (callable : Callable) (owner : Option Class)
  | proxy (callable : Callable) (mode : ProxyMode) (bridge : Bridge) (opened : Option OpenClass)
  | function (callable : Callable) (opened : Option OpenClass)
  | finalizer (opened : OpenClass) (bridge : Bridge)
  | openClass (cls : Class)
  | closeClass (opened : OpenClass)
  | cls (cls : Class)
  | enumeration (enumeration : Enumeration)

namespace Command

/-- Take a step. What it gives back is not part of the state. -/
def run (setup : Setup) : Command → Generate Unit
  | bridge callable owner => discard (Generate.bridge setup callable owner)
  | proxy callable mode made opened =>
    discard (Generate.proxy setup callable mode made opened)
  | function callable opened => discard (Generate.function setup callable opened)
  | finalizer opened made => discard (Generate.finalizer setup opened made)
  | openClass c => discard (Generate.openClass c)
  | closeClass opened => Generate.closeClass setup opened
  | cls c => Generate.cls setup c
  | enumeration e => Generate.enumeration e

/-- The step is for classes of the library and for declarations whose types can be read. -/
def IsProper (decls : Declarations) : Command → Prop
  | bridge callable owner => callable.IsSpelled ∧ ∀ cls ∈ owner, cls ∈ decls.classes
  | proxy _ _ made opened => made.IsSpelled ∧ ∀ o ∈ opened, o.cls ∈ decls.classes
  | function callable opened => callable.IsSpelled ∧ ∀ o ∈ opened, o.cls ∈ decls.classes
  | finalizer opened made => made.IsSpelled ∧ opened.cls ∈ decls.classes
  | openClass c => c ∈ decls.classes
  | closeClass opened => opened.cls ∈ decls.classes
  | cls c => c ∈ decls.classes ∧ ∀ member ∈ c.members, member.IsSpelled
  | enumeration _ => True

/-- Every step for a library whose classes have plain names keeps the kept answers sound, also when
it fails. -/
theorem run_sound {command : Command} (h : command.IsProper setup.sources.decls)
    (hnames : ∀ cls ∈ setup.sources.decls.classes, cls.HasPlainName) :
    EnsuresOk (IsSound setup) (command.run setup) fun _ => True := by
  cases command with
  | bridge callable owner =>
    have hplain := fun cls hcls => hnames cls (h.2 cls hcls)
    exact (bridge_keeps (keeps_sound fun _ hr => hr.isPlain h.1 hplain)).discard
  | proxy callable mode made opened =>
    exact (proxy_keeps (keeps_sound fun _ hr => hr.isPlain h.1) opened).discard
  | function callable opened =>
    refine (function_keeps (keeps_sound fun _ hr => hr.isPlain h.1 fun cls hcls => ?_)).discard
    obtain ⟨o, ho, rfl⟩ := Option.map_eq_some_iff.1 hcls
    exact hnames o.cls (h.2 o ho)
  | finalizer opened made =>
    have hplain := hnames opened.cls h.2
    exact (finalizer_keeps (keeps_sound fun _ hr => hr.isPlain hplain) made).discard
  | openClass c =>
    have hkeeps : Keeps setup (fun _ => False) (LookupState.Sound setup.sources) :=
      keeps_sound nofun
    exact (openClass_keeps hkeeps c).discard
  | closeClass opened =>
    refine closeClass_keeps (keeps_sound ?_)
    rintro _ rfl
    exact (hnames opened.cls h).isPlain_dataRequest _
  | cls c =>
    exact cls_keeps (keeps_sound fun _ hr => hr.isPlain (hnames c h.1) h.2)
  | enumeration e => exact addParts_keeps _

end Command

/-- The states that sequences of proper steps lead to. -/
inductive Reachable (setup : Setup) : GeneratorState → Prop
  | initial : Reachable setup {}
  | step {state : GeneratorState} (h : Reachable setup state) {command : Command}
      (hcommand : command.IsProper setup.sources.decls) :
      Reachable setup ((command.run setup).run.run state).2

namespace Reachable

theorem sound {state : GeneratorState} (h : Reachable setup state)
    (hnames : ∀ cls ∈ setup.sources.decls.classes, cls.HasPlainName) : IsSound setup state := by
  induction h with
  | initial => exact LookupState.sound_empty setup.sources
  | step _ hcommand ih => exact (Command.run_sound hcommand hnames _ ih).2

/-- **What was generated before does not show.** In any two states that are reachable with a library
whose classes have plain names, a declaration gets the same bridge if it gets one in both, and a
bridge the same proxy. -/
theorem history_independent {first second : GeneratorState} (hfirst : Reachable setup first)
    (hsecond : Reachable setup second)
    (hnames : ∀ cls ∈ setup.sources.decls.classes, cls.HasPlainName) :
    (∀ (callable : Callable) (owner : Option Class), callable.IsSpelled →
      (∀ cls ∈ owner, cls ∈ setup.sources.decls.classes) → ∀ made made',
        ((bridge setup callable owner).run.run first).1 = .ok made →
        ((bridge setup callable owner).run.run second).1 = .ok made' → made = made') ∧
    (∀ (callable : Callable) (mode : ProxyMode) (bridge : Bridge)
      (opened opened' : Option OpenClass), bridge.IsSpelled →
      opened.map (fun o => (o.cls, o.name)) = opened'.map (fun o => (o.cls, o.name)) →
      ∃ made next next',
        ((proxy setup callable mode bridge opened).run.run first).1 = .ok (made, next) ∧
        ((proxy setup callable mode bridge opened').run.run second).1 = .ok (made, next')) := by
  have hsound := hfirst.sound hnames
  have hsound' := hsecond.sound hnames
  refine ⟨fun callable owner hcallable howner made made' hmade hmade' => ?_,
    fun callable mode bridge opened opened' hbridge hopened => ?_⟩
  · have hplain := fun cls hcls => hnames cls (howner cls hcls)
    obtain ⟨result, hresult⟩ := bridge_settled hcallable hplain
    have hfound := (hresult first hsound).1 made hmade
    have hfound' := (hresult second hsound').1 made' hmade'
    exact Except.ok.inj (hfound.symm.trans hfound')
  · have hmake : (Proxy.make setup.sources setup.config callable mode bridge
        (opened.map fun o => (o.cls, o.name))).Settled setup.sources :=
      Proxy.make_settled hbridge _ _ _ _
    obtain ⟨made, hmade⟩ := hmake
    obtain ⟨next, hrun⟩ := proxy_run callable mode bridge opened first
    obtain ⟨next', hrun'⟩ := proxy_run callable mode bridge opened' second
    rw [(hmade _ hsound).1] at hrun
    rw [← hopened, (hmade _ hsound').1] at hrun'
    exact ⟨made, next, next', hrun, hrun'⟩

/-- The library of gauges with some templates, and the default configuration. -/
def gaugeSetup : Setup := ⟨Lookup.gauges, {}⟩

def gauge : Class where
  name := "Gauge"
  rename := some "Meter"

/-- A method that takes a number and returns an object. -/
def gaugeMethod (name : String) : Callable where
  name := name
  kind := .method false
  parameters := [{ type := .named "reading_t" }]
  result := .named "Gauge"
  action := some ""

theorem history_independent_of_gauges :
    ∃ second made, Reachable gaugeSetup second ∧ second.lookups.diagnostics ≠ [] ∧
      ((bridge gaugeSetup (gaugeMethod "get") (some gauge)).run.run {}).1 = .ok made ∧
      ((bridge gaugeSetup (gaugeMethod "get") (some gauge)).run.run second).1 = .ok made ∧
      made.wrapper.returnType = "void *" ∧
      made.wrapper.arguments = [("void *", "farg1"), ("double", "farg2")] := by
  have hnames : ∀ cls ∈ gaugeSetup.sources.decls.classes, cls.HasPlainName := by
    have hname : CxxType.ofSpelling gauge.name = .ok (.named gauge.name) := by decide +kernel
    intro cls hcls
    obtain rfl : cls = gauge := List.mem_singleton.1 hcls
    exact hname
  have hspelled : ∀ name, (gaugeMethod name).IsSpelled := by
    have hreading : CxxType.ofSpelling "reading_t" = .ok (.named "reading_t") := by decide +kernel
    have hgauge : CxxType.ofSpelling "Gauge" = .ok (.named "Gauge") := by decide +kernel
    refine fun name => ⟨fun p hp => ?_, _, hgauge⟩
    obtain rfl := List.mem_singleton.1 hp
    exact ⟨_, hreading⟩
  have howner : ∀ cls ∈ some gauge, cls ∈ gaugeSetup.sources.decls.classes := by
    rintro cls ⟨⟩
    exact List.mem_singleton.2 rfl
  have hcommand : (Command.bridge (gaugeMethod "set") (some gauge)).IsProper
      gaugeSetup.sources.decls := ⟨hspelled "set", howner⟩
  obtain ⟨made, hmade⟩ : ∃ made,
      ((bridge gaugeSetup (gaugeMethod "get") (some gauge)).run.run {}).1 = .ok made :=
    Except.exists_of_isOk (by decide +kernel)
  obtain ⟨made', hmade'⟩ : ∃ made', ((bridge gaugeSetup (gaugeMethod "get") (some gauge)).run.run
      (((Command.bridge (gaugeMethod "set") (some gauge)).run gaugeSetup).run.run {}).2).1 =
        .ok made' :=
    Except.exists_of_isOk (by decide +kernel)
  have hsecond := Reachable.initial.step hcommand
  have heq := (history_independent .initial hsecond hnames).1 _ _ (hspelled "get") howner
    made made' hmade hmade'
  have hwrapper : ((bridge gaugeSetup (gaugeMethod "get") (some gauge)).run.run {}).1.map
      (fun made => (made.wrapper.returnType, made.wrapper.arguments)) =
        .ok ("void *", [("void *", "farg1"), ("double", "farg2")]) := by
    decide +kernel
  rw [hmade] at hwrapper
  obtain ⟨hreturn, harguments⟩ := Prod.mk.inj (Except.ok.inj hwrapper)
  exact ⟨_, made, hsecond, by decide +kernel, hmade, heq ▸ hmade', hreturn, harguments⟩

end Reachable

end Generate

end FortranBindings
