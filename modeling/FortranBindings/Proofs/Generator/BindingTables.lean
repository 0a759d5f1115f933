import FortranBindings.Proofs.Generator.Sessions
import FortranBindings.Proofs.Generator.TypeBoundNames
import FortranBindings.Proofs.Registry.Groups

/-!
# Tables of bindings

What is made for a callable is written down in several places: a routine is added to the module, a
procedure is bound in the open class, and the variants of one name are collected, those of members
in their class and those of functions in the module. In every session, whatever calls fail and
however classes are opened and closed between each other, these places agree
(`Session.bindingTables_agree`): a class has one procedure for each of the members that were
generated for it, and its generic names, like those of the module, group exactly the overloaded ones
among what was generated.
-/

namespace FortranBindings

open Generate

/-- The class that is written out as a derived type. -/
def TypeBlock.derived? : TypeBlock → Option OpenClass
  | derived opened _ => some opened
  | _ => none

/-- No class is written out as a shell. -/
theorem TypeBlock.filterMap_derived?_shells {blocks : List TypeBlock} {names : List String}
    (h : blocks.map shellName? = names.map some) : blocks.filterMap derived? = [] := by
  refine List.filterMap_eq_nil_iff.2 fun block hblock => ?_
  have hshell : block.shellName? ∈ blocks.map shellName? := List.mem_map_of_mem hblock
  rw [h] at hshell
  obtain ⟨name, -, hname⟩ := List.mem_map.1 hshell
  cases block with
  | shell => rfl
  | enumeration | derived => cases hname

namespace Generate

variable {setup : Setup} {callable : Callable} {opened : Option OpenClass} {routine : Routine}

/-- The routine was made as the proxy of a callable, from a bridge of that callable. -/
def IsProxyOf (setup : Setup) (callable : Callable) (owner : Option Class) (routine : Routine) :
    Prop :=
  ∃ bridge lookups, IsBridgeOf setup callable owner bridge ∧
    ((Proxy.make setup.sources setup.config callable (.ofKind callable.kind) bridge
      (owner.map fun cls => (cls, cls.publicName))).run lookups).1.routine = routine

theorem IsProxyOf.name {owner : Option Class} (h : IsProxyOf setup callable owner routine) :
    routine.name = Proxy.routineName setup.config callable owner := by
  obtain ⟨bridge, lookups, -, rfl⟩ := h
  rw [Proxy.name_make, Option.map_map]
  exact congrArg _ Option.map_id'

/-- What is made for a callable in a class under the public name of the class is its proxy. -/
theorem exists_isProxyOf_of_make (hproxies : setup.config.proxyClasses = true)
    (hkind : callable.kind = .constructor → (opened.map OpenClass.cls).isSome)
    (hname : ∀ o ∈ opened, o.name = o.cls.publicName) {made : Made} {lookups last : LookupState}
    (h : (make setup callable opened).run.run lookups = (.ok made, last)) :
    ∃ proxy, made.proxy? = some proxy ∧
      IsProxyOf setup callable (opened.map OpenClass.cls) proxy := by
  obtain ⟨middle, hbridge, -⟩ := make_eq_ok h
  obtain ⟨final, hproxy⟩ := proxy?_of_make hproxies h
  have howner : ownerOf opened =
      (opened.map OpenClass.cls).map fun cls => (cls, cls.publicName) := by
    cases opened with
    | none => rfl
    | some o => rw [ownerOf, Option.map_some, hname o rfl]; rfl
  refine ⟨_, hproxy, made.bridge, final, isBridgeOf_of_make hkind hbridge, ?_⟩
  rw [howner]

/-! ## Proxies in a module -/

section

variable {related : Callable → Routine → Prop} {callables : List Callable}
  {routines : List Routine}

/-- Callables keep their proxies when there are more routines. -/
theorem exists_proxies_append (h : ∃ proxies : List Routine, proxies.Sublist routines ∧
      List.Forall₂ related callables proxies) (more : List Routine) :
    ∃ proxies : List Routine, proxies.Sublist (routines ++ more) ∧
      List.Forall₂ related callables proxies := by
  obtain ⟨proxies, hsublist, hproxies⟩ := h
  exact ⟨proxies, hsublist.trans (List.sublist_append_left ..), hproxies⟩

/-- One more callable has its proxy behind the others. -/
theorem exists_proxies_concat (h : ∃ proxies : List Routine, proxies.Sublist routines ∧
      List.Forall₂ related callables proxies) {proxy : Routine} (hproxy : related callable proxy)
    (more : List Routine) : ∃ proxies : List Routine,
      proxies.Sublist (routines ++ proxy :: more) ∧
      List.Forall₂ related (callables ++ [callable]) proxies := by
  obtain ⟨proxies, hsublist, hproxies⟩ := h
  refine ⟨proxies ++ [proxy], ?_, List.rel_append hproxies (.cons hproxy .nil)⟩
  exact hsublist.append (List.singleton_sublist.2 List.mem_cons_self)

end

end Generate

/-! ## Classes -/

/-- The tables of a class agree with the members that were generated for it: it has one procedure
for each of them, in order, which calls the proxy of the member, and its generic names group the
overloaded ones. -/
structure Context.Agrees (setup : Setup) (routines : List Routine) (context : Context) : Prop where
  name : context.opened.name = context.opened.cls.publicName
  procedures : context.opened.procedures =
    context.members.map (memberBinding setup context.opened.cls)
  proxies : ∃ proxies : List Routine, proxies.Sublist routines ∧
    List.Forall₂ (fun callable proxy => IsProxyOf setup callable (some context.opened.cls) proxy ∧
      proxy.name = (memberBinding setup context.opened.cls callable).routine)
      context.members proxies
  generics : context.opened.overloads.entries =
    Overloads.grouped ((context.members.filter Callable.isOverloaded).map fun callable =>
      (callable.memberName, (memberBinding setup context.opened.cls callable).name))

/-- The lines of the derived type behind its data: one for the procedure of each member, one for
each group of overloaded members, and one for the finalizer. -/
def Context.bindingLines (setup : Setup) (context : Context) : List String :=
  context.members.map (fun callable => (memberBinding setup context.opened.cls callable).render) ++
    (Overloads.grouped ((context.members.filter Callable.isOverloaded).map fun callable =>
      (callable.memberName, callable.procedureName))).map (fun (name, variants) =>
        "  generic :: " ++ name ++ " => " ++ ", ".intercalate variants ++ "\n") ++
    context.opened.finalizer.toList.map fun routine => "  final :: " ++ routine ++ "\n"

namespace Context.Agrees

variable {setup : Setup} {routines : List Routine} {context : Context}

theorem initial (setup : Setup) (routines : List Routine) (cls : Class) :
    Context.Agrees setup routines ⟨{ cls, name := cls.publicName }, []⟩ where
  name := rfl
  procedures := rfl
  proxies := ⟨[], List.nil_sublist _, .nil⟩
  generics := rfl

/-- More routines do not disturb the tables of a class. -/
theorem mono (h : context.Agrees setup routines) (more : List Routine) :
    context.Agrees setup (routines ++ more) :=
  ⟨h.name, h.procedures, exists_proxies_append h.proxies more, h.generics⟩

/-- One more member is bound. -/
theorem added (h : context.Agrees setup routines) {callable : Callable} {made : Made}
    {proxy : Routine} (hmade : made.proxy? = some proxy)
    (hproxy : IsProxyOf setup callable (some context.opened.cls) proxy) (more : List Routine) :
    Context.Agrees setup (routines ++ proxy :: more)
      ⟨made.bindIn callable context.opened, context.members ++ [callable]⟩ := by
  have hcls : (made.bindIn callable context.opened).cls = context.opened.cls := Made.bindIn_cls
  have hname := hproxy.name
  have hprocedures : (made.bindIn callable context.opened).procedures =
      context.opened.procedures ++ [memberBinding setup context.opened.cls callable] := by
    rw [Made.bindIn, hmade]
    refine (bindMember_procedures ..).trans ?_
    rw [hname, memberBinding]
  have hoverloads : (made.bindIn callable context.opened).overloads =
      if callable.isOverloaded then context.opened.overloads.record callable.memberName
        (memberBinding setup context.opened.cls callable).name
      else context.opened.overloads := by
    rw [Made.bindIn, hmade]
    exact bindMember_overloads ..
  constructor
  · exact Made.bindIn_name.trans (h.name.trans (congrArg Class.publicName hcls.symm))
  · dsimp only
    rw [hcls, List.map_append, ← h.procedures, hprocedures]
    rfl
  · dsimp only
    rw [hcls]
    exact exists_proxies_concat h.proxies ⟨hproxy, hname⟩ more
  · dsimp only
    rw [hcls, hoverloads]
    exact Overloads.entries_record_filter h.generics callable

/-- What is bound in a class is written out line by line. -/
theorem renderBindings (h : context.Agrees setup routines) : context.opened.renderBindings =
    if context.bindingLines setup = [] then ""
    else " contains\n" ++ String.join (context.bindingLines setup) := by
  have hempty : context.bindingLines setup = [] ↔ context.opened.procedures = [] ∧
      context.opened.overloads.entries = [] ∧ context.opened.finalizer = none := by
    rw [Context.bindingLines, List.append_eq_nil_iff, List.append_eq_nil_iff, h.procedures,
      h.generics]
    simp only [List.map_eq_nil_iff, Option.toList_eq_nil_iff, and_assoc]
    rfl
  have hlines : String.join (context.bindingLines setup) =
      String.join (context.opened.procedures.map ProcedureBinding.render) ++
        context.opened.overloads.genericBindings ++
        context.opened.finalizer.elim "" fun routine => "  final :: " ++ routine ++ "\n" := by
    rw [Context.bindingLines, String.join_append, String.join_append, h.procedures,
      Overloads.genericBindings, h.generics, List.map_map]
    congr 1
    cases context.opened.finalizer with
    | none => rfl
    | some routine => exact String.join_cons.trans String.append_empty
  rw [OpenClass.renderBindings, hlines]
  exact if_congr hempty.symm rfl rfl

end Context.Agrees

/-! ## Modules -/

/-- The tables of a session agree with what was generated in it. -/
structure Session.Agrees (setup : Setup) (session : Session) : Prop where
  contexts : ∀ context ∈ session.contexts,
    context.Agrees setup session.state.parts.routines
  closed : ∀ context ∈ session.closed, context.Agrees setup session.state.parts.routines
  /-- A class that was closed is written out as it was then. -/
  types : session.state.parts.types.filterMap TypeBlock.derived? =
    session.closed.map Context.opened
  proxies : ∃ proxies : List Routine, proxies.Sublist session.state.parts.routines ∧
    List.Forall₂ (fun callable proxy => IsProxyOf setup callable none proxy ∧
      proxy.name = Proxy.routineName setup.config callable none) session.functions proxies
  /-- The names that overloaded functions are called by, with the proxies of each. -/
  generics : session.state.parts.overloads.entries =
    Overloads.grouped ((session.functions.filter Callable.isOverloaded).map fun callable =>
      (callable.publicName, Proxy.routineName setup.config callable none))

namespace Session.Agrees

variable {setup : Setup} {session next : Session} {call : Call}

theorem initial (setup : Setup) : Session.Agrees setup {} where
  contexts := nofun
  closed := nofun
  types := rfl
  proxies := ⟨[], .slnil, .nil⟩
  generics := rfl

/-- A function that is generated has its proxy behind the others, and is listed in the group of its
public name if it is overloaded. -/
theorem addedFunction (hproxies : setup.config.proxyClasses = true) (h : session.Agrees setup)
    {callable : Callable} {made : Made} {lookups : LookupState}
    (hmake : (make setup callable none).run.run session.state.lookups = (.ok made, lookups))
    (hkind : callable.kind.isMember = false) : Session.Agrees setup { session with
      state := session.state.adding setup callable none made lookups
      functions := session.functions ++ [callable] } := by
  have hconstructor : callable.kind = .constructor → (none : Option Class).isSome :=
    fun hkind' => absurd hkind' (Callable.ne_constructor hkind)
  have hnone : ∀ o ∈ (none : Option OpenClass), o.name = o.cls.publicName := nofun
  obtain ⟨proxy, hproxy, hmade⟩ : ∃ proxy, made.proxy? = some proxy ∧
      IsProxyOf setup callable none proxy :=
    exists_isProxyOf_of_make hproxies hconstructor hnone hmake
  have hroutines : (session.state.parts.adding callable none made).routines = _ :=
    ModuleParts.routines_adding hproxy
  have hoverloads : (session.state.parts.adding callable none made).overloads =
      if callable.isOverloaded then session.state.parts.overloads.record callable.publicName
        (Proxy.routineName setup.config callable none)
      else session.state.parts.overloads := by
    rw [ModuleParts.overloads_adding hproxy, ← hmade.name]
    exact if_congr (and_iff_right rfl) rfl rfl
  constructor
  · intro context hcontext
    exact hroutines ▸ (h.contexts context hcontext).mono _
  · intro context hcontext
    exact hroutines ▸ (h.closed context hcontext).mono _
  · exact (congrArg _ ModuleParts.types_adding).trans h.types
  · exact hroutines ▸ exists_proxies_concat h.proxies ⟨hmade, hmade.name⟩ _
  · exact hoverloads ▸ Overloads.entries_record_filter h.generics callable

/-- A member that is generated is bound in its class, and the tables of functions stay. -/
theorem addedMember (hproxies : setup.config.proxyClasses = true) (h : session.Agrees setup)
    {position : Nat} {callable : Callable} {context : Context} {made : Made}
    {lookups : LookupState} (hcontext : session.contexts[position]? = some context)
    (hmake : (make setup callable (some context.opened)).run.run session.state.lookups =
      (.ok made, lookups)) : Session.Agrees setup { session with
        state := session.state.adding setup callable (some context.opened.cls) made lookups
        contexts := session.contexts.set position
          ⟨made.bindIn callable context.opened, context.members ++ [callable]⟩ } := by
  have hopened := h.contexts context (List.mem_of_getElem? hcontext)
  obtain ⟨proxy, hproxy, hmade⟩ := exists_isProxyOf_of_make hproxies (fun _ => rfl)
    (fun o ho => Option.some.inj ho ▸ hopened.name) hmake
  have hroutines : (session.state.parts.adding callable (some context.opened.cls) made).routines =
      _ := ModuleParts.routines_adding hproxy
  have hoverloads :
      (session.state.parts.adding callable (some context.opened.cls) made).overloads =
        session.state.parts.overloads := by
    rw [ModuleParts.overloads_adding hproxy]
    exact if_neg fun hnone => Bool.noConfusion hnone.1
  constructor
  · intro other hother
    rcases List.mem_or_eq_of_mem_set hother with hother | rfl
    · exact hroutines ▸ (h.contexts other hother).mono _
    · exact hroutines ▸ hopened.added hproxy hmade _
  · intro other hother
    exact hroutines ▸ (h.closed other hother).mono _
  · exact (congrArg _ ModuleParts.types_adding).trans h.types
  · exact hroutines ▸ exists_proxies_append h.proxies _
  · exact hoverloads ▸ h.generics

/-- A class that is closed is written out as it is. -/
theorem closedClass (hproxies : setup.config.proxyClasses = true) (h : session.Agrees setup)
    {position : Nat} {context : Context} (hcontext : session.contexts[position]? = some context) :
    Session.Agrees setup { session with
      state := ((closeClass setup context.opened).run.run session.state).2
      contexts := session.contexts.eraseIdx position
      closed := session.closed ++ [context] } := by
  obtain ⟨data, lookups, hclose⟩ := closeClass_eq setup context.opened session.state
  rw [hclose]
  refine ⟨fun other hother => ?_, fun other hother => ?_, ?_, h.proxies, h.generics⟩
  · exact h.contexts other (List.mem_of_mem_eraseIdx hother)
  · rcases List.mem_append.1 hother with hother | hlast
    · exact h.closed other hother
    · obtain rfl := List.mem_singleton.1 hlast
      exact h.contexts other (List.mem_of_getElem? hcontext)
  · dsimp only
    rw [List.filterMap_append, h.types, derivedTypes, if_pos hproxies, List.map_append]
    rfl

/-- **Every call keeps the tables in agreement.** -/
theorem effect (hproxies : setup.config.proxyClasses = true) (h : session.Agrees setup)
    (heffect : Session.Effect setup session call next) : next.Agrees setup := by
  cases heffect with
  | idle => exact h
  | refused => exact ⟨h.contexts, h.closed, h.types, h.proxies, h.generics⟩
  | function hmake hkind => exact h.addedFunction hproxies hmake hkind
  | member hcontext hmake => exact h.addedMember hproxies hcontext hmake
  | opened cls hfree =>
    refine ⟨fun context hcontext => ?_, h.closed, h.types, h.proxies, h.generics⟩
    rcases List.mem_append.1 hcontext with hcontext | hnew
    · exact h.contexts context hcontext
    · obtain rfl := List.mem_singleton.1 hnew
      exact .initial setup _ cls
  | closed hcontext => exact h.closedClass hproxies hcontext
  | enumeration e =>
    refine ⟨h.contexts, h.closed, ?_, h.proxies, h.generics⟩
    exact (List.filterMap_append ..).trans ((List.append_nil _).trans h.types)

end Session.Agrees

/-- **The tables of bindings agree** with what was generated, after any calls and in the finished
module. In the derived type of a class that was closed each member that was generated for it has one
line, in order, and each group of overloaded ones has one behind them. The types, the proxies and
the generic interfaces stand line by line in the Fortran source. -/
theorem Session.bindingTables_agree {setup : Setup} (hproxies : setup.config.proxyClasses = true)
    (calls : List Call) :
    let session := Session.run setup {} calls
    session.Agrees setup ∧
    ∃ next, (finish setup).run.run session.state = (.ok (writtenOut setup next), next) ∧
      Session.Agrees setup { session with state := next } ∧
      (∀ context ∈ session.closed,
        (∃ data, .derived context.opened data ∈ next.parts.types) ∧
        context.opened.renderBindings =
          if context.bindingLines setup = [] then ""
          else " contains\n" ++ String.join (context.bindingLines setup)) ∧
      (writtenOut setup next).HasLines
        (next.parts.lines setup.sources.decls setup.config) := by
  intro session
  have hagrees : session.Agrees setup :=
    Session.run_induct (.initial setup) fun _ _ _ _ h heffect => h.effect hproxies heffect
  obtain ⟨blocks, lookups, hshells, hblocks⟩ :=
    shells_eq setup session.state.lookups.opaqueTypes session.state
  have hnone := TypeBlock.filterMap_derived?_shells hblocks
  refine ⟨hagrees, _, finish_run hshells, ?_, fun context hcontext => ⟨?_, ?_⟩,
    writtenOut_hasLines setup _⟩
  · refine ⟨hagrees.contexts, hagrees.closed, ?_, hagrees.proxies, hagrees.generics⟩
    dsimp only
    rw [List.filterMap_append, hnone, List.append_nil, hagrees.types]
  · have hmem : context.opened ∈ session.state.parts.types.filterMap TypeBlock.derived? := by
      rw [hagrees.types]
      exact List.mem_map_of_mem hcontext
    obtain ⟨block, hblock, hderived⟩ := List.mem_filterMap.1 hmem
    cases block with
    | derived opened data =>
      cases hderived
      exact ⟨data, List.mem_append_left _ hblock⟩
    | enumeration | shell => cases hderived
  · exact (hagrees.closed context hcontext).renderBindings

/-- Two classes that are open at the same time. One member is left out. -/
def mixingCalls : List Call :=
  [.openClass (mixer []), .openClass { name := "Tuner" },
    .member 0 (mixing "mix" (some "_1")), .member 1 (mixing "tune" none),
    .member 0 (mixing "level" none), .function (summing "_1"), .member 0 (mixing "level" none),
    .closeClass 1, .member 0 (mixing "mix" (some "_2")), .function (summing "_2"), .closeClass 0]
where
  mixing (name : String) (overload : Option String) : Callable :=
    { name, kind := .method true, overload }
  summing (overload : String) : Callable :=
    { name := "sum", kind := .freeFunction, overload := some overload }

theorem Session.bindingTables_agree_of_mixing : mixerSetup.config.proxyClasses = true ∧
    ∃ next, (finish mixerSetup).run.run (Session.run mixerSetup {} mixingCalls).state =
        (.ok (writtenOut mixerSetup next), next) ∧
      next.parts.overloads.entries = [("sum", ["swigf_sum_1", "swigf_sum_2"])] ∧
      ∃ tuner mixer, (Session.run mixerSetup {} mixingCalls).closed = [tuner, mixer] ∧
        mixer.opened.procedures.map ProcedureBinding.name = ["mix_1", "level", "mix_2"] ∧
        mixer.opened.overloads.entries = [("mix", ["mix_1", "mix_2"])] := by
  have hproxies : mixerSetup.config.proxyClasses = true := rfl
  obtain ⟨hagrees, next, hrun, hnext, -, -⟩ := Session.bindingTables_agree hproxies mixingCalls
  have hfunctions : (Session.run mixerSetup {} mixingCalls).functions =
      [mixingCalls.summing "_1", mixingCalls.summing "_2"] := by decide +kernel
  have hclosed : (Session.run mixerSetup {} mixingCalls).closed.map Context.members =
      [[mixingCalls.mixing "tune" none],
        [mixingCalls.mixing "mix" (some "_1"), mixingCalls.mixing "level" none,
          mixingCalls.mixing "mix" (some "_2")]] := by decide +kernel
  have hgenerics := hnext.generics
  dsimp only at hgenerics
  rw [hfunctions] at hgenerics
  obtain ⟨tuner, others, htuner, -, hothers⟩ := List.map_eq_cons_iff.1 hclosed
  obtain ⟨mixer, rest, rfl, hmembers, hrest⟩ := List.map_eq_cons_iff.1 hothers
  obtain rfl := List.map_eq_nil_iff.1 hrest
  have hmixer := hagrees.closed mixer (by rw [htuner]; simp)
  refine ⟨hproxies, next, hrun, hgenerics, tuner, mixer, htuner, ?_, ?_⟩
  · rw [hmixer.procedures, hmembers]
    rfl
  · rw [hmixer.generics, hmembers]
    rfl

end FortranBindings
