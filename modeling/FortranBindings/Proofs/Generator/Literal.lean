import FortranBindings.Proofs.Generator.Sessions
import FortranBindings.Proofs.ModuleSource.Literal

/-!
# No token is left in the sources

Whatever is added to a module has no `$` if the declarations and the choices for the module have
none: this holds of what is made for a callable (`Generate.make_isLiteral`), it is kept by every
call (`Session.Effect.isLiteral`) and by the shells in the end. So both sources are free of tokens,
for every store of templates that can be filled in (`Generate.sources_isLiteral`), and for the
built-in templates (`Generate.isLiteral_of_generate`).
-/

namespace FortranBindings

open Text Generate

/-- The names that a member is bound under have no `$`. -/
theorem Callable.IsLiteral.isLiteral_bindingName {callable : Callable} (h : callable.IsLiteral)
    (mode : ProxyMode) : Text.IsLiteral (callable.bindingName mode) := by
  unfold bindingName
  split
  · simp [Text.IsLiteral]
  · simp [Text.IsLiteral]
  · next field role hkind =>
    have hword := AccessorRole.isLiteral_word role
    cases hrename : callable.rename with
    | none =>
      rw [Option.getD_none]
      simp only [isLiteral_append, hword, h.field field role hkind, true_and, and_true]
      simp [Text.IsLiteral]
    | some rename => exact h.rename rename hrename
  · exact h.isLiteral_publicName

theorem Callable.isLiteral_bindingBase (callable : Callable) (mode : ProxyMode) :
    Text.IsLiteral (callable.bindingBase mode) := by
  cases mode with
  | function => exact isLiteral_sanitize _
  | constructor | destructor => simp [bindingBase, Text.IsLiteral]

theorem OpenClass.IsLiteral.bindMember {opened : OpenClass} (h : opened.IsLiteral)
    {callable : Callable} (hcallable : callable.IsLiteral) (mode : ProxyMode) {routine : String}
    (hroutine : Text.IsLiteral routine) :
    (Generate.bindMember callable mode routine opened).IsLiteral := by
  have hname := hcallable.isLiteral_bindingName mode
  unfold Generate.bindMember
  cases hoverload : callable.overload with
  | none => exact h.bind ⟨hname, hroutine⟩
  | some overload =>
    have hvariant : Text.IsLiteral (callable.bindingBase mode ++ overload) :=
      isLiteral_append.2 ⟨callable.isLiteral_bindingBase mode,
        hcallable.overload overload hoverload⟩
    exact h.bindOverload hname hvariant hroutine

/-! ## Callables -/

namespace Generate

variable {setup : Setup} {callable : Callable} {opened : Option OpenClass}

/-- No text of what was made for a callable has a `$`. -/
structure Made.IsLiteral (made : Made) : Prop where
  bridge : made.bridge.IsLiteral
  proxy : ∀ routine ∈ made.proxy?, routine.IsLiteral
  finalizer : ∀ routine ∈ made.finalizer?, routine.IsLiteral

theorem makeFinalizer?_isLiteral (hs : setup.sources.IsFillable) (hconfig : setup.config.IsLiteral)
    (hopened : ∀ o ∈ opened, o.IsLiteral) {bridge : Bridge} (hbridge : bridge.IsLiteral) :
    Ensures LookupState.IsReady (makeFinalizer? setup callable bridge opened) fun made =>
      ∀ routine ∈ made, routine.IsLiteral := by
  cases opened with
  | none => exact .pure nofun
  | some o =>
    unfold makeFinalizer?
    dsimp only
    split
    · refine (Proxy.makeFinalizer_isLiteral hs hconfig o.cls (hopened o rfl).name hbridge).map
        fun routine hroutine other hother => ?_
      cases hother
      exact hroutine
    · exact .pure nofun

/-- **What is made for a literal callable has no `$`.** -/
theorem make_isLiteral (hs : setup.sources.IsFillable) (hconfig : setup.config.IsLiteral)
    (h : callable.IsLiteral) (hopened : ∀ o ∈ opened, o.IsLiteral) :
    EnsuresOk LookupState.IsReady (make setup callable opened) Made.IsLiteral := by
  have howner : ∀ cls ∈ opened.map OpenClass.cls, cls.IsLiteral := by
    intro cls hcls
    obtain ⟨o, ho, rfl⟩ := Option.map_eq_some_iff.1 hcls
    exact (hopened o ho).cls
  have hproxyOwner : ∀ o ∈ ownerOf opened, o.1.IsLiteral ∧ Text.IsLiteral o.2 := by
    intro pair hpair
    obtain ⟨o, ho, rfl⟩ := Option.map_eq_some_iff.1 hpair
    exact ⟨(hopened o ho).cls, (hopened o ho).name⟩
  have hname : Text.IsLiteral (wrapperName setup callable (opened.map OpenClass.cls)) := by
    unfold wrapperName
    simp only [isLiteral_append, hconfig.wrapperPrefix, h.isLiteral_symbolIn howner,
      h.isLiteral_overload, and_self]
  have hroutines : ∀ bridge : Bridge, bridge.IsLiteral → Ensures LookupState.IsReady
      (makeRoutines setup callable opened bridge) fun routines =>
        (∀ routine ∈ routines.1, routine.IsLiteral) ∧
          ∀ routine ∈ routines.2, routine.IsLiteral := by
    intro bridge hbridge
    unfold makeRoutines
    split
    · refine (Proxy.make_isLiteral hs hconfig h _ hbridge hproxyOwner).bind fun proxy hproxy => ?_
      refine (makeFinalizer?_isLiteral hs hconfig hopened hbridge).bind
        fun finalizer hfinalizer => .pure ⟨fun routine hroutine => ?_, hfinalizer⟩
      cases hroutine
      exact hproxy
    · exact .pure ⟨by simp, by simp⟩
  refine (Bridge.make_isLiteral hs h howner hname).bind fun bridge hbridge => ?_
  refine (EnsuresOk.lift (hroutines bridge hbridge)).bind fun routines hroutines => ?_
  exact .pure ⟨hbridge, hroutines.1, hroutines.2⟩

end Generate

/-! ## States -/

theorem LookupState.IsReady.of_answers_eq {state next : LookupState} (h : state.IsReady)
    (heq : next.answers = state.answers) : next.IsReady := by
  intro request answer hanswer
  refine h request answer ?_
  rw [← hanswer, kept?, kept?, answer?, answer?, heq]

theorem LookupState.isReady_empty : LookupState.IsReady {} := nofun

namespace ModuleParts.IsLiteral

variable {parts : ModuleParts} {callable : Callable} {made : Made}

theorem empty : ModuleParts.IsLiteral {} :=
  ⟨nofun, nofun, nofun, nofun, nofun, nofun⟩

theorem withTypes (h : parts.IsLiteral) {block : TypeBlock}
    (hblock : Text.IsLiteral block.render) :
    { parts with types := parts.types ++ [block] }.IsLiteral :=
  ⟨h.wrappers, h.interfaces, h.publics,
    List.forall_mem_append.2 ⟨h.types, List.forall_mem_singleton.2 hblock⟩, h.overloads,
    h.routines⟩

theorem withPublics (h : parts.IsLiteral) {names : List String} (hnames : AllLiteral names) :
    { parts with publics := parts.publics ++ [names] }.IsLiteral :=
  ⟨h.wrappers, h.interfaces,
    List.forall_mem_append.2 ⟨h.publics, List.forall_mem_singleton.2 hnames⟩, h.types,
    h.overloads, h.routines⟩

theorem withRoutines (h : parts.IsLiteral) {routines : List Routine}
    (hroutines : ∀ routine ∈ routines, routine.IsLiteral) :
    { parts with routines := parts.routines ++ routines }.IsLiteral :=
  ⟨h.wrappers, h.interfaces, h.publics, h.types, h.overloads,
    List.forall_mem_append.2 ⟨h.routines, hroutines⟩⟩

theorem exposing (h : parts.IsLiteral) (hcallable : callable.IsLiteral) {routine : String}
    (hroutine : Text.IsLiteral routine) : (parts.exposing callable routine).IsLiteral := by
  unfold ModuleParts.exposing
  split
  · exact ⟨h.wrappers, h.interfaces, h.publics, h.types,
      h.overloads.record hcallable.isLiteral_publicName hroutine, h.routines⟩
  · exact h.withPublics (allLiteral_cons.2 ⟨hroutine, allLiteral_nil⟩)

/-- What was made for a literal callable keeps the parts of a module literal. -/
theorem adding (h : parts.IsLiteral) (hcallable : callable.IsLiteral) (hmade : made.IsLiteral)
    (owner : Option Class) : (parts.adding callable owner made).IsLiteral := by
  have hbridged : { parts with
      wrappers := parts.wrappers ++ [made.bridge.wrapper]
      interfaces := parts.interfaces ++ [made.bridge.interface] }.IsLiteral :=
    ⟨List.forall_mem_append.2 ⟨h.wrappers, List.forall_mem_singleton.2 hmade.bridge.wrapper⟩,
      List.forall_mem_append.2 ⟨h.interfaces, List.forall_mem_singleton.2 hmade.bridge.interface⟩,
      h.publics, h.types, h.overloads, h.routines⟩
  unfold ModuleParts.adding addingRoutines
  cases hproxy : made.proxy? with
  | none =>
    have hname : Text.IsLiteral made.bridge.name := hmade.bridge.wrapper.name
    exact hbridged.withPublics (allLiteral_cons.2 ⟨hname, allLiteral_nil⟩)
  | some proxy =>
    have hroutine := hmade.proxy proxy hproxy
    have hroutines : ∀ routine ∈ proxy :: made.finalizer?.toList, routine.IsLiteral :=
      List.forall_mem_cons.2 ⟨hroutine, fun routine hr =>
        hmade.finalizer routine (Option.mem_toList.1 hr)⟩
    cases owner with
    | some cls => exact hbridged.withRoutines hroutines
    | none =>
      have hexposed := hbridged.exposing hcallable hroutine.name
      exact ⟨hexposed.wrappers, hexposed.interfaces, hexposed.publics, hexposed.types,
        hexposed.overloads, (hbridged.withRoutines hroutines).routines⟩

end ModuleParts.IsLiteral

/-- A member is bound in an open class without adding a `$`. -/
theorem Generate.Made.IsLiteral.bindIn {made : Made} (h : made.IsLiteral) {callable : Callable}
    (hcallable : callable.IsLiteral) {opened : OpenClass} (hopened : opened.IsLiteral) :
    (made.bindIn callable opened).IsLiteral := by
  unfold Made.bindIn
  cases hproxy : made.proxy? with
  | none => exact hopened
  | some proxy =>
    have hbound := hopened.bindMember hcallable (.ofKind callable.kind) (h.proxy proxy hproxy).name
    refine ⟨hbound.cls, hbound.name, hbound.procedures, hbound.overloads, fun name hname => ?_⟩
    dsimp only at hname
    cases hfinalizer : made.finalizer? with
    | none =>
      rw [hfinalizer] at hname
      exact hbound.finalizer name hname
    | some finalizer =>
      rw [hfinalizer] at hname
      cases hname
      exact (h.finalizer finalizer hfinalizer).name

/-- The code that was found can be filled in, and no text in the parts of the module has a `$`. -/
structure GeneratorState.IsLiteral (state : GeneratorState) : Prop where
  lookups : state.lookups.IsReady
  parts : state.parts.IsLiteral

theorem GeneratorState.isLiteral_empty : GeneratorState.IsLiteral {} :=
  ⟨LookupState.isReady_empty, .empty⟩

namespace Generate

variable {setup : Setup}

theorem ofLookup_isLiteral {α : Type} {lookup : Lookup α} {post : α → Prop}
    (h : Ensures LookupState.IsReady lookup post) :
    EnsuresOk GeneratorState.IsLiteral (ofLookup lookup) post := by
  intro state hstate
  obtain ⟨hpost, hready⟩ := h state.lookups hstate.lookups
  exact ⟨fun a ha => Except.ok.inj ha ▸ hpost, hready, hstate.parts⟩

theorem addParts_isLiteral {add : ModuleParts → ModuleParts}
    (h : ∀ parts : ModuleParts, parts.IsLiteral → (add parts).IsLiteral) :
    EnsuresOk GeneratorState.IsLiteral (addParts add) fun _ => True :=
  .modify fun state hstate => ⟨hstate.lookups, h state.parts hstate.parts⟩

/-- The data of a derived type has no `$`. -/
theorem dataLines_isLiteral (hs : setup.sources.IsFillable) (name : String)
    (location : Location) :
    EnsuresOk GeneratorState.IsLiteral (dataLines setup name location) AllLiteral := by
  have hr : (dataRequest name location).IsFillable := .of_operation Attachments.isReady_empty
  refine (ofLookup_isLiteral (Lookup.code_readyFor hs hr)).bind fun code hcode => .pure ?_
  exact allLiteral_codeLines (hcode.isLiteral rfl)

theorem closeClass_isLiteral (hs : setup.sources.IsFillable) {opened : OpenClass}
    (h : opened.IsLiteral) :
    EnsuresOk GeneratorState.IsLiteral (closeClass setup opened) fun _ => True := by
  unfold closeClass
  split
  · refine (dataLines_isLiteral hs _ _).bind fun data hdata => addParts_isLiteral ?_
    intro parts hparts
    have htypes := hparts.withTypes (h.isLiteral_render hdata)
    exact htypes.withPublics (allLiteral_cons.2 ⟨h.name, allLiteral_nil⟩)
  · exact .pure trivial

theorem enumeration_isLiteral {e : Enumeration} (h : e.IsLiteral) :
    EnsuresOk GeneratorState.IsLiteral (enumeration e) fun _ => True := by
  refine addParts_isLiteral fun parts hparts => ?_
  have hnames : ∀ entry ∈ e.marker?.toList.map (fun name => (name, (-1 : Int))) ++ e.variants,
      Text.IsLiteral entry.1 := by
    refine List.forall_mem_append.2 ⟨List.forall_mem_map.2 fun marker hmarker => ?_, h.variants⟩
    exact h.isLiteral_marker marker (Option.mem_toList.1 hmarker)
  have htypes := hparts.withTypes (TypeBlock.isLiteral_render_enumeration hnames)
  split
  · exact htypes
  · exact htypes.withPublics (List.forall_mem_map.2 hnames)

theorem shells_isLiteral (hs : setup.sources.IsFillable) {names : List String}
    (h : AllLiteral names) :
    EnsuresOk GeneratorState.IsLiteral (shells setup names) fun _ => True := by
  induction names with
  | nil => exact .pure trivial
  | cons name names ih =>
    obtain ⟨hname, hnames⟩ := allLiteral_cons.1 h
    rw [shells]
    refine (dataLines_isLiteral hs name {}).bind fun data hdata => ?_
    refine (addParts_isLiteral fun parts hparts => ?_).bind fun _ _ => ih hnames
    exact hparts.withTypes (TypeBlock.isLiteral_render_shell hname hdata)

end Generate

/-! ## Sessions -/

/-- No text of what is called for has a `$`. -/
def Call.IsLiteral : Call → Prop
  | .function callable => callable.IsLiteral
  | .member _ callable => callable.IsLiteral
  | .openClass cls => cls.IsLiteral
  | .closeClass _ => True
  | .enumeration e => e.IsLiteral

theorem Declarations.IsLiteral.isLiteral_calls {decls : Declarations} (h : decls.IsLiteral) :
    ∀ call ∈ decls.calls, call.IsLiteral := by
  intro call hcall
  obtain ⟨item, hitem, hcall⟩ := List.mem_flatMap.1 hcall
  cases item with
  | function callable =>
    obtain rfl := List.mem_singleton.1 hcall
    exact h.functions callable (List.mem_filterMap.2 ⟨_, hitem, rfl⟩)
  | cls c =>
    have hcls : c.IsLiteral := h.classes c (List.mem_filterMap.2 ⟨_, hitem, rfl⟩)
    rcases List.mem_cons.1 hcall with rfl | hcall
    · exact hcls
    rcases List.mem_append.1 hcall with hmember | hclose
    · obtain ⟨callable, hcallable, rfl⟩ := List.mem_map.1 hmember
      exact hcls.members callable hcallable
    · obtain rfl := List.mem_singleton.1 hclose
      trivial
  | enumeration e =>
    obtain rfl := List.mem_singleton.1 hcall
    exact h.enumerations e (List.mem_filterMap.2 ⟨_, hitem, rfl⟩)

/-- No text that a session has brought forth has a `$`. -/
structure Session.IsLiteral (session : Session) : Prop where
  state : session.state.IsLiteral
  contexts : ∀ context ∈ session.contexts, context.opened.IsLiteral

namespace Session

variable {setup : Setup} {session next : Session} {call : Call}

/-- **A call keeps a session literal.** -/
theorem Effect.isLiteral (hs : setup.sources.IsFillable) (hconfig : setup.config.IsLiteral)
    (heffect : Effect setup session call next) (hcall : call.IsLiteral) (h : session.IsLiteral) :
    next.IsLiteral := by
  cases heffect with
  | idle => exact h
  | refused name location previous => exact ⟨⟨h.state.lookups, h.state.parts⟩, h.contexts⟩
  | @function callable made lookups hmake hkind =>
    have hnone : ∀ o ∈ (none : Option OpenClass), o.IsLiteral := nofun
    obtain ⟨hmade, hlookups⟩ :=
      make_isLiteral hs hconfig hcall hnone session.state.lookups h.state.lookups
    rw [hmake] at hmade hlookups
    exact ⟨⟨hlookups, h.state.parts.adding hcall (hmade made rfl) none⟩, h.contexts⟩
  | @member position callable context made lookups hcontext hmake =>
    have hopened := h.contexts context (List.mem_of_getElem? hcontext)
    have hsome : ∀ o ∈ some context.opened, o.IsLiteral := fun o ho => by cases ho; exact hopened
    obtain ⟨hmade, hlookups⟩ :=
      make_isLiteral hs hconfig hcall hsome session.state.lookups h.state.lookups
    rw [hmake] at hmade hlookups
    refine ⟨⟨hlookups, h.state.parts.adding hcall (hmade made rfl) _⟩, fun other hother => ?_⟩
    rcases List.mem_or_eq_of_mem_set hother with hold | rfl
    · exact h.contexts other hold
    · exact (hmade made rfl).bindIn hcall hopened
  | opened cls hfree =>
    have hready : (remarkBases cls session.state.lookups).IsReady := by
      unfold remarkBases
      split
      · exact h.state.lookups.of_answers_eq rfl
      · exact h.state.lookups
    have hname : Text.IsLiteral cls.publicName := Class.IsLiteral.isLiteral_publicName hcall
    exact ⟨⟨hready, h.state.parts⟩, List.forall_mem_append.2 ⟨h.contexts,
      List.forall_mem_singleton.2 ⟨hcall, hname, nofun, nofun, nofun⟩⟩⟩
  | @closed position context hcontext =>
    have hopened := h.contexts context (List.mem_of_getElem? hcontext)
    exact ⟨(closeClass_isLiteral hs hopened session.state h.state).2, fun other hother =>
      h.contexts other (List.mem_of_mem_eraseIdx hother)⟩
  | enumeration e => exact ⟨(enumeration_isLiteral hcall session.state h.state).2, h.contexts⟩

/-- Calls without a `$` keep a session literal. -/
theorem run_isLiteral (hs : setup.sources.IsFillable) (hconfig : setup.config.IsLiteral)
    {calls : List Call} (hcalls : ∀ call ∈ calls, call.IsLiteral) (h : session.IsLiteral) :
    (session.run setup calls).IsLiteral :=
  run_induct h fun call hcall _ _ hsession heffect =>
    heffect.isLiteral hs hconfig (hcalls call hcall) hsession

end Session

/-! ## Sources -/

namespace Generate

variable {setup : Setup} {module : GeneratedModule}

/-- **No `$` is left in the sources** for any store of templates that can be filled in. -/
theorem sources_isLiteral (hs : setup.sources.IsFillable) (hdecls : setup.sources.decls.IsLiteral)
    (hconfig : setup.config.IsLiteral) (h : generate setup = .ok module) :
    Text.IsLiteral module.cxxSource ∧ Text.IsLiteral module.fortranSource := by
  have hfree := freeFunction_of_generate h
  obtain ⟨state, hall, hshells, hmodule, hstate, -⟩ := generate_runs hfree
  obtain rfl := Except.ok.inj (h.symm.trans hmodule)
  obtain rfl : setup.session.state = state :=
    (Prod.mk.inj ((all_session hfree).symm.trans hall)).2
  have hsession : setup.session.IsLiteral :=
    Session.run_isLiteral hs hconfig hdecls.isLiteral_calls ⟨GeneratorState.isLiteral_empty, nofun⟩
  have hnames : AllLiteral setup.session.state.lookups.opaqueTypes := by
    intro name hname
    obtain ⟨type, rfl⟩ := hstate.holds.opaqueTypes name hname
    exact isLiteral_placeholderName type
  have hfinal : (finalState setup).IsLiteral := by
    have hlast := (shells_isLiteral hs hnames setup.session.state hsession.state).2
    rwa [hshells] at hlast
  have hmoduleName : Text.IsLiteral setup.moduleName := by
    unfold Setup.moduleName
    split
    · exact hdecls.name
    · exact hconfig.moduleName
  exact ⟨hfinal.parts.isLiteral_cxxSource hdecls,
    hfinal.parts.isLiteral_fortranSource hconfig hmoduleName⟩

/-- **No `$` is left in the sources** that are generated with the built-in templates for
declarations without a `$`, though code for exceptions has the token `$action` in it. -/
theorem isLiteral_of_generate {decls : Declarations} {config : Config} (hdecls : decls.IsLiteral)
    (hconfig : config.IsLiteral) (h : generate ⟨.builtin decls, config⟩ = .ok module) :
    Text.IsLiteral module.cxxSource ∧ Text.IsLiteral module.fortranSource :=
  sources_isLiteral hdecls.isFillable hdecls hconfig h

/-- A library with an enum, a class whose member passes exceptions on, and a function for a class
that is not declared. -/
def valves : Declarations where
  name := "valves"
  includes := ["valve.hh"]
  items := [
    .enumeration mode,
    .cls {
      name := "Valve"
      members := [turn] },
    .function couple]
where
  mode : Enumeration := { name := "Mode", variants := [("OPEN", 0)] }
  turn : Callable := {
    name := "turn"
    kind := .method false
    parameters := [{ name := "mode", type := .named "Mode" }]
    features := { exception := some "try \x7b $action \x7d catch (...) \x7b throw; \x7d" } }
  couple : Callable := {
    name := "couple"
    kind := .freeFunction
    parameters := [{ name := "pipe", type := .lvalueReference (.named "Pipe") }]
    result := .pointer (.named "Valve")
    features := { newObject := true } }

theorem isLiteral_valves : valves.IsLiteral where
  name := by decide
  includes := allLiteral_cons.2 ⟨by decide, allLiteral_nil⟩
  init := allLiteral_nil
  typedefs := nofun
  functions := by
    refine List.forall_mem_singleton.2 ?_
    exact ⟨by decide, nofun, nofun, nofun, by decide, by decide, by decide, nofun, nofun, nofun,
      nofun, nofun⟩
  classes := by
    refine List.forall_mem_singleton.2 ⟨by decide, nofun, List.forall_mem_singleton.2 ?_⟩
    exact ⟨by decide, nofun, nofun, nofun, by decide, by decide, by decide, nofun, nofun, nofun,
      by decide, nofun⟩
  enumerations := List.forall_mem_singleton.2 ⟨nofun, by decide⟩

theorem isLiteral_of_generate_valves : valves.IsLiteral ∧ Config.IsLiteral {} ∧
    (∃ code ∈ valves.turn.features.exception, ¬Text.IsLiteral code) ∧
    ∃ module, generate ⟨.builtin valves, {}⟩ = .ok module ∧
      Text.IsLiteral module.cxxSource ∧ Text.IsLiteral module.fortranSource := by
  have hconfig : Config.IsLiteral {} := ⟨by decide, by decide, by decide, allLiteral_nil⟩
  let setup : Setup := ⟨.builtin valves, {}⟩
  have hfree : ∀ f ∈ setup.sources.decls.functions, f.kind = .freeFunction :=
    List.forall_mem_singleton.2 rfl
  obtain ⟨shells, hgenerate, -, -, -⟩ := generate_describes hfree
  exact ⟨isLiteral_valves, hconfig, ⟨_, rfl, by decide⟩, _, hgenerate,
    isLiteral_of_generate isLiteral_valves hconfig hgenerate⟩

end Generate

end FortranBindings
