import FortranBindings.Proofs.Generator.Arguments
import FortranBindings.Proofs.Generator.Requests

/-!
# What lookups keep, generation keeps

Generation changes the state of the lookups by the requests that it asks and by reports that are not
about templates. So an invariant that these keep (`Generate.Keeps`) is kept by each step and by all
items (`Generate.all_keeps`), also where a step fails.
-/

namespace FortranBindings.Generate

variable {setup : Setup} {sort sort' : Request → Prop} {inv : LookupState → Prop} {α : Type}

/-- The requests of a sort and the reports that are not about templates keep the invariant. -/
structure Keeps (setup : Setup) (sort : Request → Prop) (inv : LookupState → Prop) : Prop where
  find : ∀ request, sort request → Ensures inv (Lookup.find setup.sources request) fun _ => True
  report : ∀ state diagnostic, diagnostic.kind ≠ .missingTemplate → inv state →
    inv (state.report diagnostic)

theorem Keeps.mono (h : Keeps setup sort inv) (hsort : ∀ request, sort' request → sort request) :
    Keeps setup sort' inv :=
  ⟨fun request hr => h.find request (hsort request hr), h.report⟩

/-! ## Steps -/

theorem ofLookup_keeps {lookup : Lookup α} (hasks : Lookup.Asks setup.sources sort lookup)
    (h : Keeps setup sort inv) :
    EnsuresOk (fun state => inv state.lookups) (ofLookup lookup) fun _ => True :=
  ofLookup_ensures (hasks.ensures h.find)

theorem addParts_keeps (add : ModuleParts → ModuleParts) :
    EnsuresOk (fun state => inv state.lookups) (addParts add) fun _ => True :=
  .modify fun _ hs => hs

theorem report_keeps (h : Keeps setup sort inv) {kind : DiagnosticKind}
    (hkind : kind ≠ .missingTemplate) (location : Location) (message : String) :
    EnsuresOk (fun state => inv state.lookups) (report kind location message) fun _ => True :=
  report_ensures fun state hs => h.report state _ hkind hs

/-- A bridge has the parameters and the result of its declaration. -/
theorem bridge_keeps {callable : Callable} {owner : Option Class}
    (h : Keeps setup (callable.Asked owner) inv) :
    EnsuresOk (fun state => inv state.lookups) (bridge setup callable owner) fun made =>
      made.parameters = callable.parametersIn owner ∧ made.result = callable.resultIn owner := by
  have hasks : Lookup.Asks setup.sources (Bridge.Asked callable owner) (Bridge.make setup.sources
      callable owner (wrapperName setup callable owner)).run := Bridge.make_asks callable owner _
  have hmake : EnsuresOk inv (Bridge.make setup.sources callable owner
      (wrapperName setup callable owner)) fun _ => True :=
    (hasks.ensures fun request hr => h.find request (.bridge hr)).mono fun _ _ _ _ => trivial
  have hreport : ∀ state (diagnostic : Diagnostic), diagnostic.kind.isError = true → inv state →
      inv (state.report diagnostic) := by
    intro state diagnostic herror
    refine h.report state diagnostic fun hkind => ?_
    rw [hkind] at herror
    cases herror
  refine Ensures.of_always (bridge_ensures hreport hmake) ?_
  exact (bridge_aligned callable owner).mono fun made hmade => hmade.2

/-- Binding a proxy keeps the class that is open. -/
theorem bindProxy_keeps (callable : Callable) (mode : ProxyMode) (name : String)
    (opened : Option OpenClass) :
    EnsuresOk (fun state => inv state.lookups) (bindProxy callable mode name opened) fun next =>
      next.map OpenClass.cls = opened.map OpenClass.cls := by
  cases opened with
  | some o =>
    unfold bindProxy
    cases callable.overload with
    | some overload => exact .pure rfl
    | none => exact .pure rfl
  | none =>
    unfold bindProxy
    dsimp only
    split
    · exact (addParts_keeps _).bind fun _ _ => .pure rfl
    · exact (addParts_keeps _).bind fun _ _ => .pure rfl

theorem proxy_keeps {callable : Callable} {mode : ProxyMode} {bridge : Bridge}
    (h : Keeps setup (Proxy.Asked bridge mode) inv) (opened : Option OpenClass) :
    EnsuresOk (fun state => inv state.lookups) (proxy setup callable mode bridge opened)
      fun next => next.2.map OpenClass.cls = opened.map OpenClass.cls := by
  refine (ofLookup_keeps (Proxy.make_asks _ callable mode bridge _) h).bind fun made _ => ?_
  exact (bindProxy_keeps callable mode _ opened).bind fun next hnext => .pure hnext

theorem finalizer_keeps {opened : OpenClass}
    (h : Keeps setup (Proxy.AskedByFinalizer opened.cls) inv) (bridge : Bridge) :
    EnsuresOk (fun state => inv state.lookups) (finalizer setup opened bridge) fun next =>
      next.cls = opened.cls := by
  refine (ofLookup_keeps (Proxy.makeFinalizer_asks _ _ _ bridge) h).bind fun routine _ => ?_
  exact (addParts_keeps _).bind fun _ _ => .pure rfl

theorem addProxy_keeps {callable : Callable} {bridge : Bridge} {opened : Option OpenClass}
    (hproxy : Keeps setup (Proxy.Asked bridge (.ofKind callable.kind)) inv)
    (hfinalizer : ∀ o ∈ opened, Keeps setup (Proxy.AskedByFinalizer o.cls) inv) :
    EnsuresOk (fun state => inv state.lookups) (addProxy setup callable bridge opened)
      fun next => next.2.map OpenClass.cls = opened.map OpenClass.cls := by
  refine (proxy_keeps hproxy opened).bind fun made hmade => ?_
  obtain ⟨proxy, bound⟩ := made
  refine (addParts_keeps _).bind fun _ _ => ?_
  cases bound with
  | none => exact .pure hmade
  | some o =>
    dsimp only
    split
    · obtain ⟨o', ho', hcls⟩ := Option.map_eq_some_iff.1 hmade.symm
      refine (finalizer_keeps (hcls ▸ hfinalizer o' ho') bridge).bind fun next hnext => .pure ?_
      rw [← hmade, Option.map_some, Option.map_some, hnext]
    · exact .pure hmade

theorem expose_keeps {callable : Callable} {bridge : Bridge} {opened : Option OpenClass}
    (hproxy : Keeps setup (Proxy.Asked bridge (.ofKind callable.kind)) inv)
    (hfinalizer : ∀ o ∈ opened, Keeps setup (Proxy.AskedByFinalizer o.cls) inv) :
    EnsuresOk (fun state => inv state.lookups) (expose setup callable bridge opened)
      fun next => next.2.map OpenClass.cls = opened.map OpenClass.cls := by
  unfold expose
  split
  · exact (addProxy_keeps hproxy hfinalizer).bind fun next hnext => .pure hnext
  · exact (addParts_keeps _).bind fun _ _ => .pure rfl

theorem function_keeps {callable : Callable} {opened : Option OpenClass}
    (h : Keeps setup (callable.Asked (opened.map OpenClass.cls)) inv) :
    EnsuresOk (fun state => inv state.lookups) (function setup callable opened) fun next =>
      next.map OpenClass.cls = opened.map OpenClass.cls := by
  unfold function
  dsimp only
  split
  · exact .throw
  · refine (bridge_keeps h).bind fun made hmade => ?_
    refine (addParts_keeps _).bind fun _ _ => ?_
    have hproxy : Keeps setup (Proxy.Asked made (.ofKind callable.kind)) inv :=
      h.mono fun _ hr => .proxy hmade.1 hmade.2 hr
    refine (expose_keeps hproxy fun o ho => ?_).bind fun next hnext => ?_
    · obtain rfl := Option.mem_def.1 ho
      exact h.mono fun _ hr => .finalizer rfl hr
    · exact EnsuresOk.bind (.modify fun _ hs => hs) fun _ _ => .pure hnext

/-! ## Classes -/

theorem openClass_keeps (h : Keeps setup sort inv) (cls : Class) :
    EnsuresOk (fun state => inv state.lookups) (openClass cls) fun opened => opened.cls = cls := by
  unfold openClass
  refine EnsuresOk.get.bind fun state _ => ?_
  cases state.classSymbols.register cls.publicName cls.location with
  | error previous => exact (report_keeps h (by decide) _ _).bind fun _ _ => .throw
  | ok classSymbols =>
    refine EnsuresOk.bind (.modify fun _ hs => hs) fun _ _ => ?_
    dsimp only
    split
    · exact (report_keeps h (by decide) _ _).bind fun _ _ => .pure rfl
    · exact .pure rfl

theorem dataLines_keeps {className : String} {location : Location}
    (h : Keeps setup (· = dataRequest className location) inv) :
    EnsuresOk (fun state => inv state.lookups) (dataLines setup className location)
      fun _ => True := by
  have hasks : Lookup.Asks setup.sources (· = dataRequest className location)
      (Lookup.code setup.sources (dataRequest className location)) := .code rfl
  exact (ofLookup_keeps hasks h).bind fun _ _ => .pure trivial

theorem closeClass_keeps {opened : OpenClass}
    (h : Keeps setup (· = dataRequest opened.cls.name opened.cls.location) inv) :
    EnsuresOk (fun state => inv state.lookups) (closeClass setup opened) fun _ => True := by
  unfold closeClass
  split
  · exact (dataLines_keeps h).bind fun data _ => addParts_keeps _
  · exact .pure trivial

theorem orSkip_keeps {step : Generate α} {fallback : α} {post : α → Prop}
    (hstep : EnsuresOk (fun state => inv state.lookups) step post) (hfallback : post fallback)
    (wrap : GenerateError → GenerateError) :
    EnsuresOk (fun state => inv state.lookups) (orSkip step fallback wrap) post := by
  refine hstep.tryCatch fun error => ?_
  split
  · exact .pure hfallback
  · exact .throw

/-- Generating members keeps the class that is open. -/
theorem members_keeps {cls : Class} {callables : List Callable} {opened : OpenClass}
    (h : ∀ callable ∈ callables, Keeps setup (callable.Asked (some opened.cls)) inv) :
    EnsuresOk (fun state => inv state.lookups) (members setup cls callables opened)
      fun next => next.cls = opened.cls := by
  induction callables generalizing opened with
  | nil => exact .pure rfl
  | cons callable rest ih =>
    have hfunction : EnsuresOk (fun state => inv state.lookups)
        (function setup callable (some opened))
        fun next => next.map OpenClass.cls = some opened.cls :=
      function_keeps (h callable List.mem_cons_self)
    rw [members]
    refine (orSkip_keeps hfunction rfl _).bind fun next hnext => ?_
    obtain ⟨o, rfl, hcls⟩ := Option.map_eq_some_iff.1 hnext
    refine (ih fun c hc => ?_).mono fun last hlast => hlast.trans hcls
    exact hcls ▸ h c (List.mem_cons_of_mem _ hc)

theorem cls_keeps {cls : Class} (h : Keeps setup cls.Asked inv) :
    EnsuresOk (fun state => inv state.lookups) (Generate.cls setup cls) fun _ => True := by
  refine (openClass_keeps h cls).bind fun opened hopened => ?_
  subst hopened
  refine EnsuresOk.bind (members_keeps fun callable hc => ?_) fun last hlast => ?_
  · exact h.mono fun _ hr => .member hc hr
  · rw [← hlast] at h
    refine closeClass_keeps (h.mono ?_)
    rintro _ rfl
    exact .data _

/-! ## Items -/

theorem item_keeps {item : Item} (h : Keeps setup item.Asked inv) :
    EnsuresOk (fun state => inv state.lookups) (Generate.item setup item) fun _ => True := by
  cases item with
  | function callable =>
    have hfunction : EnsuresOk (fun state => inv state.lookups) (function setup callable none)
        fun next => next.map OpenClass.cls = none := function_keeps h
    exact (orSkip_keeps hfunction rfl _).discard
  | cls cls => exact orSkip_keeps (cls_keeps h) trivial _
  | enumeration enumeration => exact addParts_keeps _

theorem forM_keeps {items : List Item} (h : ∀ item ∈ items, Keeps setup item.Asked inv) :
    EnsuresOk (fun state => inv state.lookups) (items.forM (Generate.item setup))
      fun _ => True := by
  induction items with
  | nil => exact .pure trivial
  | cons item items ih =>
    refine (item_keeps (h item List.mem_cons_self)).bind fun _ _ => ?_
    exact ih fun other hother => h other (List.mem_cons_of_mem _ hother)

/-- **What the requests of all items keep** is kept by generating them. -/
theorem all_keeps (h : ∀ item ∈ setup.sources.decls.items, Keeps setup item.Asked inv) :
    EnsuresOk (fun state => inv state.lookups) (all setup) fun _ => True :=
  forM_keeps h

/-! ## The end of a module -/

theorem shells_keeps {names : List String}
    (h : ∀ name ∈ names, Keeps setup (· = dataRequest name {}) inv) :
    EnsuresOk (fun state => inv state.lookups) (shells setup names) fun _ => True := by
  induction names with
  | nil => exact .pure trivial
  | cons name names ih =>
    rw [shells]
    refine (dataLines_keeps (h name List.mem_cons_self)).bind fun data _ => ?_
    refine (addParts_keeps _).bind fun _ _ => ?_
    exact ih fun other hother => h other (List.mem_cons_of_mem _ hother)

end FortranBindings.Generate
