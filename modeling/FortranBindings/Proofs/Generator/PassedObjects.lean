import FortranBindings.Proofs.Decl.Spelled
import FortranBindings.Proofs.Generator.BindingTables
import FortranBindings.Proofs.Generator.ClassSteps
import FortranBindings.Proofs.Proxy.PassedObject
import FortranBindings.Proofs.Template.Coverage

/-!
# Bound procedures take their object

The proxy that is made for a member takes the object that it is called on, if the answers that were
kept before are sound (`Generate.exists_isMemberProxy`). If the types of all declarations can be
read and each class is found by its name, the kept answers stay sound in a session, and so all
members that were generated in it have such proxies (`Session.TakesObjects.effect`). So in the
module that is generated with the built-in table a procedure that is bound in a derived type takes
an object of this type (`Generate.boundProcedures_takeObject`). A type that cannot be read may be
written like a pointer to the class, and then it does not
(`Generate.not_boundProcedures_takeObject`).
-/

namespace FortranBindings

open Generate

theorem Declarations.NamesClass.hasPlainName {decls : Declarations} {cls : Class}
    (h : decls.NamesClass cls) : cls.HasPlainName := by
  have hname : (CxxType.named cls.name).WellSpelled :=
    (CxxType.isSpelled_iff.1 (h.isSpelled false)).2
  -- The signature of a type with a name is this name.
  have hread : CxxType.ofSpelling (CxxType.named cls.name).signature = .ok (.named cls.name) :=
    CxxType.ofSpelling_signature hname
  exact hread

/-- What a library is generated from if nothing else is asked for: the built-in table and the
default configuration. -/
def Setup.standard (decls : Declarations) : Setup := ⟨.builtin decls, {}⟩

variable {decls : Declarations}

namespace Generate

variable {setup : Setup} {callable : Callable} {o : OpenClass} {made : Made}
  {lookups last : LookupState}

/-- The routine is the proxy of a member, and it takes the object that it is called on. -/
structure IsMemberProxy (setup : Setup) (cls : Class) (callable : Callable) (routine : Routine) :
    Prop where
  isProxyOf : IsProxyOf setup callable (some cls) routine
  takesObject : callable.kind.isMember = true →
    routine.TakesObject cls.publicName (ProxyMode.ofKind callable.kind).objectIntent

/-- What is made for a callable keeps the kept answers sound. -/
theorem sound_of_make {opened : Option OpenClass} (h : callable.IsSpelled)
    (ho : ∀ o ∈ opened, o.cls.HasPlainName) (hsound : lookups.Sound setup.sources)
    (hmake : (make setup callable opened).run.run lookups = (.ok made, last)) :
    last.Sound setup.sources := by
  obtain ⟨result, hresult⟩ : (make setup callable opened).run.Settled setup.sources :=
    make_settled h ho
  have hlast := (hresult lookups hsound).2
  rwa [hmake] at hlast

/-- **What is made for a member** from sound answers is a proxy that takes its object. -/
theorem exists_isMemberProxy (hcls : decls.NamesClass o.cls) (ho : o.name = o.cls.publicName)
    (h : callable.IsSpelled) (hsound : lookups.Sound (.builtin decls))
    (hmake : (make (.standard decls) callable (some o)).run.run lookups = (.ok made, last)) :
    ∃ proxy, made.proxy? = some proxy ∧
      IsMemberProxy (.standard decls) o.cls callable proxy := by
  have hplain : ∀ cls ∈ some o.cls, cls.HasPlainName := by
    rintro _ ⟨⟩
    exact hcls.hasPlainName
  have hname : ∀ o' ∈ some o, o'.name = o'.cls.publicName := by
    rintro _ ⟨⟩
    exact ho
  obtain ⟨proxy, hproxy, hisProxyOf⟩ := exists_isProxyOf_of_make rfl (fun _ => rfl) hname hmake
  refine ⟨proxy, hproxy, hisProxyOf, fun hmember => ?_⟩
  -- The proxy is made from the bridge, in the state that making the bridge has led to.
  obtain ⟨middle, hrun, hroutines⟩ := make_eq_ok hmake
  let name := wrapperName (.standard decls) callable (some o.cls)
  have hbridge : (Bridge.make (.builtin decls) callable (some o.cls) name).run.run lookups =
      (.ok made.bridge, middle) := hrun
  have hspelled : made.bridge.IsSpelled := isSpelled_of_make h hplain (congrArg Prod.fst hrun)
  have hroutine : made.proxy? = some ((Proxy.make (.builtin decls) {} callable
      (.ofKind callable.kind) made.bridge (some (o.cls, o.cls.publicName))).run
        middle).1.routine := by
    rw [← ho]
    exact (congrArg (·.1.1) hroutines).symm
  obtain ⟨hattachments, hmiddle⟩ := Bridge.make_attachments h hplain name lookups hsound
  rw [hbridge] at hattachments hmiddle
  obtain ⟨-, hparameters, -⟩ :=
    (Bridge.make_ensures callable (some o.cls) name lookups trivial).1 made.bridge
      (congrArg Prod.fst hbridge)
  obtain ⟨htakes, -⟩ := Proxy.make_takesObject hcls hmember hspelled hparameters
    (hparameters.symm ▸ hattachments made.bridge rfl)
    (Proxy.toLower_routineName_ne_self callable o.cls) middle hmiddle
  obtain rfl := Option.some.inj (hproxy.symm.trans hroutine)
  exact htakes

end Generate

/-! ## Sessions -/

/-- The class of the context is found by its name, its derived type has its public name, and for
each of its members there is a proxy that takes its object, in order. -/
structure Context.TakesObjects (decls : Declarations) (routines : List Routine)
    (context : Context) : Prop where
  namesClass : decls.NamesClass context.opened.cls
  name : context.opened.name = context.opened.cls.publicName
  proxies : ∃ proxies : List Routine, proxies.Sublist routines ∧
    List.Forall₂ (IsMemberProxy (.standard decls) context.opened.cls) context.members proxies

namespace Context.TakesObjects

variable {routines : List Routine} {context : Context}

theorem initial {cls : Class} (h : decls.NamesClass cls) (routines : List Routine) :
    Context.TakesObjects decls routines ⟨{ cls, name := cls.publicName }, []⟩ :=
  ⟨h, rfl, [], List.nil_sublist _, .nil⟩

/-- More routines do not disturb the proxies of a class. -/
theorem mono (h : context.TakesObjects decls routines) (more : List Routine) :
    context.TakesObjects decls (routines ++ more) :=
  ⟨h.namesClass, h.name, exists_proxies_append h.proxies more⟩

/-- One more member has its proxy. -/
theorem added (h : context.TakesObjects decls routines) {callable : Callable} {made : Made}
    {proxy : Routine}
    (hproxy : IsMemberProxy (.standard decls) context.opened.cls callable proxy)
    (more : List Routine) : Context.TakesObjects decls (routines ++ proxy :: more)
      ⟨made.bindIn callable context.opened, context.members ++ [callable]⟩ := by
  have hcls : (made.bindIn callable context.opened).cls = context.opened.cls := Made.bindIn_cls
  refine ⟨hcls.symm ▸ h.namesClass, ?_, ?_⟩
  · exact Made.bindIn_name.trans (h.name.trans (congrArg Class.publicName hcls.symm))
  · dsimp only
    rw [hcls]
    exact exists_proxies_concat h.proxies hproxy more

end Context.TakesObjects

/-- The types in the call can be read, and a class that it opens is found by its name. -/
def Call.IsProper (decls : Declarations) : Call → Prop
  | function callable | member _ callable => callable.IsSpelled
  | openClass cls => decls.NamesClass cls
  | closeClass _ | enumeration _ => True

/-- The calls that generate declarations are proper ones. -/
theorem Declarations.isProper_of_mem_calls (hspelled : decls.IsSpelled)
    (hclasses : ∀ cls ∈ decls.classes, decls.NamesClass cls) :
    ∀ call ∈ decls.calls, call.IsProper decls := by
  intro call hcall
  have hopen : ∀ cls, call = .openClass cls → decls.NamesClass cls := fun cls hcls =>
    hclasses cls (mem_classes_of_mem_calls (hcls ▸ hcall))
  obtain ⟨item, hitem, hmem⟩ := List.mem_flatMap.1 hcall
  have hitem := hspelled item hitem
  cases item with
  | function callable =>
    obtain rfl := List.mem_singleton.1 hmem
    exact hitem
  | enumeration e =>
    obtain rfl := List.mem_singleton.1 hmem
    exact trivial
  | cls c =>
    rcases List.mem_cons.1 hmem with rfl | hmem
    · exact hopen c rfl
    · rcases List.mem_append.1 hmem with hmem | hmem
      · obtain ⟨callable, hcallable, rfl⟩ := List.mem_map.1 hmem
        exact hitem callable hcallable
      · obtain rfl := List.mem_singleton.1 hmem
        exact trivial

/-- The kept answers are sound, and the members of all classes have proxies that take their
objects. -/
structure Session.TakesObjects (decls : Declarations) (session : Session) : Prop where
  sound : IsSound (.standard decls) session.state
  contexts : ∀ context ∈ session.contexts,
    context.TakesObjects decls session.state.parts.routines
  closed : ∀ context ∈ session.closed, context.TakesObjects decls session.state.parts.routines

namespace Session.TakesObjects

variable {session next : Session} {call : Call}

theorem initial (decls : Declarations) : Session.TakesObjects decls {} :=
  ⟨LookupState.sound_empty _, nofun, nofun⟩

/-- What is made for a function is added behind the proxies of members. -/
theorem addedFunction (h : session.TakesObjects decls) {callable : Callable}
    (hcallable : callable.IsSpelled) {made : Made} {lookups : LookupState}
    (hmake : (make (.standard decls) callable none).run.run session.state.lookups =
      (.ok made, lookups)) : Session.TakesObjects decls { session with
        state := session.state.adding (.standard decls) callable none made lookups
        functions := session.functions ++ [callable] } := by
  have hnone : ∀ o ∈ (none : Option OpenClass), o.cls.HasPlainName :=
    fun o ho => absurd ho (Option.not_mem_none o)
  obtain ⟨last, hproxy⟩ := proxy?_of_make rfl hmake
  have hroutines : (session.state.parts.adding callable none made).routines = _ :=
    ModuleParts.routines_adding hproxy
  refine ⟨sound_of_make hcallable hnone h.sound hmake, fun context hcontext => ?_,
    fun context hcontext => ?_⟩
  · exact hroutines ▸ (h.contexts context hcontext).mono _
  · exact hroutines ▸ (h.closed context hcontext).mono _

/-- What is made for a member has a proxy that takes its object. -/
theorem addedMember (h : session.TakesObjects decls) {position : Nat} {callable : Callable}
    (hcallable : callable.IsSpelled) {context : Context} {made : Made} {lookups : LookupState}
    (hcontext : session.contexts[position]? = some context)
    (hmake : (make (.standard decls) callable (some context.opened)).run.run
      session.state.lookups = (.ok made, lookups)) : Session.TakesObjects decls { session with
        state := session.state.adding (.standard decls) callable (some context.opened.cls) made
          lookups
        contexts := session.contexts.set position
          ⟨made.bindIn callable context.opened, context.members ++ [callable]⟩ } := by
  have hopened := h.contexts context (List.mem_of_getElem? hcontext)
  have hplain : ∀ o ∈ some context.opened, o.cls.HasPlainName := by
    rintro _ ⟨⟩
    exact hopened.namesClass.hasPlainName
  obtain ⟨proxy, hproxy, hmember⟩ :=
    exists_isMemberProxy hopened.namesClass hopened.name hcallable h.sound hmake
  have hroutines : (session.state.parts.adding callable (some context.opened.cls) made).routines =
      _ := ModuleParts.routines_adding hproxy
  refine ⟨sound_of_make hcallable hplain h.sound hmake, fun other hother => ?_,
    fun other hother => ?_⟩
  · rcases List.mem_or_eq_of_mem_set hother with hother | rfl
    · exact hroutines ▸ (h.contexts other hother).mono _
    · exact hroutines ▸ hopened.added hmember _
  · exact hroutines ▸ (h.closed other hother).mono _

/-- A class that is closed keeps its proxies. -/
theorem closedClass (h : session.TakesObjects decls) {position : Nat} {context : Context}
    (hcontext : session.contexts[position]? = some context) :
    Session.TakesObjects decls { session with
      state := ((closeClass (.standard decls) context.opened).run.run session.state).2
      contexts := session.contexts.eraseIdx position
      closed := session.closed ++ [context] } := by
  have hopened := h.contexts context (List.mem_of_getElem? hcontext)
  obtain ⟨data, hdata⟩ := exists_closed (.standard decls) hopened.namesClass.hasPlainName
  obtain ⟨next, hrun, hsound, hgains, -⟩ := hdata session.state h.sound
  have hroutines : next.parts.routines = session.state.parts.routines :=
    (hgains .routines).trans (List.append_nil _)
  rw [hrun]
  refine ⟨hsound, fun other hother => ?_, fun other hother => ?_⟩
  · exact hroutines.symm ▸ h.contexts other (List.mem_of_mem_eraseIdx hother)
  · rcases List.mem_append.1 hother with hother | hlast
    · exact hroutines.symm ▸ h.closed other hother
    · obtain rfl := List.mem_singleton.1 hlast
      exact hroutines.symm ▸ hopened

/-- **Every proper call** keeps it so that members take their objects. -/
theorem effect (h : session.TakesObjects decls) (hcall : call.IsProper decls)
    (heffect : Session.Effect (.standard decls) session call next) : next.TakesObjects decls := by
  cases heffect with
  | idle => exact h
  | refused => exact ⟨h.sound.report _, h.contexts, h.closed⟩
  | function hmake => exact h.addedFunction hcall hmake
  | member hcontext hmake => exact h.addedMember hcall hcontext hmake
  | opened cls =>
    refine ⟨sound_remarkBases cls h.sound, fun context hcontext => ?_, h.closed⟩
    rcases List.mem_append.1 hcontext with hcontext | hnew
    · exact h.contexts context hcontext
    · obtain rfl := List.mem_singleton.1 hnew
      exact .initial hcall _
  | closed hcontext => exact h.closedClass hcontext
  | enumeration => exact ⟨h.sound, h.contexts, h.closed⟩

end Session.TakesObjects

/-- Where class names differ, none of them is a typedef and all are read as names, each class is
found by its name. -/
theorem Declarations.namesClass_of_mem (hnodup : (decls.classes.map Class.name).Nodup)
    (htypedefs : ∀ cls ∈ decls.classes, decls.typedefs.find? cls.name = none)
    (hplain : ∀ cls ∈ decls.classes, cls.HasPlainName) :
    ∀ cls ∈ decls.classes, decls.NamesClass cls := fun cls hcls =>
  ⟨(hplain cls hcls).isSpelled_handle, htypedefs cls hcls, getClass?_of_nodup hnodup hcls⟩

namespace Generate

/-- The finished module has the routines and the derived types of the session. -/
theorem finalState_routines {setup : Setup}
    (h : ∀ f ∈ setup.sources.decls.functions, f.kind = .freeFunction) :
    (finalState setup).parts.routines = setup.session.state.parts.routines ∧
    (finalState setup).parts.types.filterMap TypeBlock.derived? =
      setup.session.state.parts.types.filterMap TypeBlock.derived? := by
  obtain ⟨blocks, lookups, -, hfinal, hshells⟩ := finalState_session h
  have hnone := TypeBlock.filterMap_derived?_shells hshells
  rw [hfinal]
  exact ⟨rfl, by rw [List.filterMap_append, hnone, List.append_nil]⟩

/-- **Bound procedures take their object.** If class names differ, none of them is a typedef and all
are read as names, and if the types of all declarations can be read, then in the derived type of
each class, which has the public name of the class, one procedure is bound for each member that was
generated. If it is bound for a constructor, a destructor, a method or an accessor, the routine that
it stands for has `self` as its first dummy argument, which it declares once, as an object of that
derived type. The types of declarations that come from a document can always be read
(`Declarations.isSpelled_of_ofDocument`). -/
theorem boundProcedures_takeObject {module : GeneratedModule}
    (hnodup : (decls.classes.map Class.name).Nodup)
    (htypedefs : ∀ cls ∈ decls.classes, decls.typedefs.find? cls.name = none)
    (hplain : ∀ cls ∈ decls.classes, cls.HasPlainName) (hspelled : decls.IsSpelled)
    (h : generate (.standard decls) = .ok module) :
    let setup := Setup.standard decls
    module.fortranSource =
      (finalState setup).parts.fortranSource setup.config setup.moduleName ∧
    (finalState setup).parts.types.filterMap TypeBlock.derived? =
      setup.session.closed.map Context.opened ∧
    (∀ context ∈ setup.session.closed,
      context.IsDeclaredIn decls.items ∧
      context.opened.name = context.opened.cls.publicName ∧
      context.opened.procedures =
        context.members.map (memberBinding setup context.opened.cls) ∧
      ∃ proxies : List Routine, proxies.Sublist (finalState setup).parts.routines ∧
        List.Forall₂ (fun callable proxy =>
          proxy.name = (memberBinding setup context.opened.cls callable).routine ∧
          (callable.kind.isMember = true → proxy.TakesObject context.opened.name
            (ProxyMode.ofKind callable.kind).objectIntent)) context.members proxies) ∧
    module.HasLines
      ((finalState setup).parts.lines setup.sources.decls setup.config) := by
  intro setup
  have hfree : ∀ f ∈ setup.sources.decls.functions, f.kind = .freeFunction :=
    freeFunction_of_generate h
  obtain ⟨shells, hgenerate, -, -, -⟩ := generate_describes hfree
  obtain ⟨hroutines, htypes⟩ := finalState_routines hfree
  have hagrees : setup.session.Agrees setup :=
    Session.run_induct (.initial setup) fun _ _ _ _ hinv heffect => hinv.effect rfl heffect
  have hproper := Declarations.isProper_of_mem_calls hspelled
    (Declarations.namesClass_of_mem hnodup htypedefs hplain)
  have htakes : setup.session.TakesObjects decls :=
    Session.run_induct (.initial decls) fun call hcall _ _ hinv heffect =>
      hinv.effect (hproper call hcall) heffect
  cases h.symm.trans hgenerate
  refine ⟨rfl, htypes.trans hagrees.types, fun context hcontext => ?_,
    writtenOut_hasLines setup _⟩
  have hcontext' := htakes.closed context hcontext
  obtain ⟨proxies, hsublist, hproxies⟩ := hcontext'.proxies
  refine ⟨Setup.isDeclaredIn_of_mem_closed hcontext, hcontext'.name,
    (hagrees.closed context hcontext).procedures, proxies, hroutines ▸ hsublist, ?_⟩
  refine hproxies.imp fun callable proxy hproxy => ⟨hproxy.isProxyOf.name, fun hmember => ?_⟩
  rw [hcontext'.name]
  exact hproxy.takesObject hmember

/-- A class whose derived type has another name. The parameter of its members is called as their
object is, and it has a typemap of its own. -/
def lamp : Class where
  name := "house::Lamp"
  rename := some "Light"
  members := [
    { name := "Lamp", kind := .constructor, parameters := [power] },
    { name := "dim", kind := .method true, parameters := [power] },
    { name := "power", kind := .accessor "power" .set, parameters := [power] },
    { name := "~Lamp", kind := .destructor }]
where
  power : Parameter :=
    { name := "self", type := .builtin .int,
      typemaps := Dict.ofList [("ftype", { code := "class(*), intent(in)" })] }

/-- A library with this class. -/
def lamps : Declarations where
  name := "lamps"
  items := [.cls lamp]

theorem isSpelled_lamps : lamps.IsSpelled := by
  have hpower : ∀ p ∈ [lamp.power], p.type.IsSpelled := fun p hp =>
    CxxType.isSpelled_iff.2 (List.mem_singleton.1 hp ▸ trivial)
  intro item hitem
  obtain rfl := List.mem_singleton.1 hitem
  intro member hmember
  simp only [lamp, List.mem_cons, List.not_mem_nil, or_false] at hmember
  rcases hmember with rfl | rfl | rfl | rfl
  · exact ⟨hpower, CxxType.isSpelled_void⟩
  · exact ⟨hpower, CxxType.isSpelled_void⟩
  · exact ⟨hpower, CxxType.isSpelled_void⟩
  · exact ⟨nofun, CxxType.isSpelled_void⟩

theorem boundProcedures_takeObject_of_lamps :
    ∃ module context proxies, generate (.standard lamps) = .ok module ∧
      (Setup.standard lamps).session.closed = [context] ∧ context.opened.name = "Light" ∧
      context.opened.procedures.map ProcedureBinding.routine =
        ["swigf_new_Light", "swigf_Light_dim", "swigf_Light_power_set", "swigf_delete_Light"] ∧
      proxies.Sublist (finalState (.standard lamps)).parts.routines ∧
      proxies.map Routine.name = context.opened.procedures.map ProcedureBinding.routine ∧
      List.Forall₂ (Routine.TakesObject · "Light") proxies ["inout", "in", "in", "inout"] := by
  have hnodup : (lamps.classes.map Class.name).Nodup := by decide
  have htypedefs : ∀ cls ∈ lamps.classes, lamps.typedefs.find? cls.name = none := fun _ _ => rfl
  have hplain : ∀ cls ∈ lamps.classes, cls.HasPlainName := by
    have hlamp : CxxType.ofSpelling lamp.name = .ok (.named lamp.name) := by decide +kernel
    intro cls hcls
    rw [List.mem_singleton.1 hcls]
    exact hlamp
  have hfree : ∀ f ∈ (Setup.standard lamps).sources.decls.functions, f.kind = .freeFunction :=
    fun f hf => absurd hf List.not_mem_nil
  obtain ⟨shells, hgenerate, -, -, -⟩ := generate_describes hfree
  obtain ⟨-, -, hcontexts, -⟩ :=
    boundProcedures_takeObject hnodup htypedefs hplain isSpelled_lamps hgenerate
  have hclosed : (Setup.standard lamps).session.closed.map Context.members = [lamp.members] := by
    rw [Setup.session, Setup.standard, Sources.builtin_eq]
    decide +kernel
  obtain ⟨context, hcontext, hmembers⟩ := List.map_eq_singleton_iff.1 hclosed
  obtain ⟨hdeclared, hname, hprocedures, proxies, hsublist, hproxies⟩ :=
    hcontexts context (hcontext ▸ List.mem_singleton_self _)
  have hcls : context.opened.cls = lamp := by simpa [lamps] using hdeclared.cls
  have hlight : lamp.publicName = "Light" := by decide +kernel
  rw [hcls, hlight] at hname
  rw [hcls, hmembers] at hprocedures
  rw [hcls, hname, hmembers] at hproxies
  have hroutines : context.opened.procedures.map ProcedureBinding.routine =
      ["swigf_new_Light", "swigf_Light_dim", "swigf_Light_power_set", "swigf_delete_Light"] := by
    rw [hprocedures]
    decide +kernel
  obtain ⟨new, _, ⟨hnew, hnew'⟩, htail, rfl⟩ := List.forall₂_cons_left_iff.1 hproxies
  obtain ⟨dim, _, ⟨hdim, hdim'⟩, htail', rfl⟩ := List.forall₂_cons_left_iff.1 htail
  obtain ⟨power, _, ⟨hpower, hpower'⟩, hlast, rfl⟩ := List.forall₂_cons_left_iff.1 htail'
  obtain ⟨delete, _, ⟨hdelete, hdelete'⟩, hnil, rfl⟩ := List.forall₂_cons_left_iff.1 hlast
  obtain rfl := List.forall₂_nil_left_iff.1 hnil
  refine ⟨_, context, _, hgenerate, hcontext, hname, hroutines, hsublist, ?_, ?_⟩
  · rw [hprocedures]
    simp only [List.map_cons, List.map_nil, hnew, hdim, hpower, hdelete]
    rfl
  · exact .cons (hnew' rfl) (.cons (hdim' rfl) (.cons (hpower' rfl) (.cons (hdelete' rfl) .nil)))

/-! ## Types that are written alike -/

/-- A library with a function that takes a parameter of a type that no spelling names. This type is
written like a pointer to the class behind it. -/
def misreadLamps : Declarations where
  name := "lamps"
  items := [
    .function {
      name := "light"
      kind := .freeFunction
      parameters := [{ name := "lamp", type := .named "Lamp *" }] },
    .cls { name := "Lamp", members := [dim] }]
where
  dim : Callable := { name := "dim", kind := .method false }

/-- A library with a class whose name is read as a name, but as a constant one. A pointer to it is
written like a pointer to a constant object of the class behind it. -/
def constLamps : Declarations where
  name := "lamps"
  items := [
    .cls {
      name := "const Lamp"
      rename := some "Fixture"
      members := [{ name := "test", kind := .method false }] },
    .cls { name := "Lamp", members := [{ name := "level", kind := .method true }] }]

/-- The derived types of a module, with the sources of the routines that are bound in each. -/
def boundRoutines (decls : Declarations) : List (String × List (List String)) :=
  let parts := (finalState (.standard decls)).parts
  (parts.types.filterMap TypeBlock.derived?).map fun opened =>
    (opened.name, opened.procedures.flatMap fun bound =>
      (parts.routines.filter (·.name = bound.routine)).map Routine.lines)

/-- What is found for a type is kept for all types that are written alike. -/
theorem boundRoutines_misreadLamps : boundRoutines misreadLamps =
    [("Lamp", [["subroutine swigf_Lamp_dim(self)", "use, intrinsic :: ISO_C_BINDING",
      "class(SWIGTYPE_Lamp), intent(in) :: self", "call swigc_Lamp_dim(self%swigptr)",
      "end subroutine", ""]])] := by
  rw [boundRoutines, Setup.standard, Sources.builtin_eq]
  decide +kernel

theorem boundRoutines_constLamps : boundRoutines constLamps =
    [("Fixture", [["subroutine swigf_Fixture_test(self)", "use, intrinsic :: ISO_C_BINDING",
        "class(Fixture), intent(in) :: self", "call swigc_Fixture_test(self%swigptr)",
        "end subroutine", ""]]),
      ("Lamp", [["subroutine swigf_Lamp_level(self)", "use, intrinsic :: ISO_C_BINDING",
        "class(Fixture), intent(in) :: self", "call swigc_Lamp_level(self%swigptr)",
        "end subroutine", ""]])] := by
  rw [boundRoutines, Setup.standard, Sources.builtin_eq]
  decide +kernel

/-- **A bound procedure may take another object** if a type of the declarations is none that a
spelling names. The same happens if the name of a class is read with `const`. -/
theorem not_boundProcedures_takeObject :
    (¬∀ (decls : Declarations) (module : GeneratedModule),
      (decls.classes.map Class.name).Nodup →
      (∀ cls ∈ decls.classes, decls.typedefs.find? cls.name = none) →
      (∀ cls ∈ decls.classes, cls.HasPlainName) →
      generate (.standard decls) = .ok module →
      ∀ context ∈ (Setup.standard decls).session.closed, ∀ callable ∈ context.members,
        callable.kind.isMember = true →
        ∃ routine ∈ (finalState (.standard decls)).parts.routines,
          routine.name = (memberBinding (.standard decls) context.opened.cls callable).routine ∧
          routine.TakesObject context.opened.name (ProxyMode.ofKind callable.kind).objectIntent) ∧
    boundRoutines misreadLamps =
      [("Lamp", [["subroutine swigf_Lamp_dim(self)", "use, intrinsic :: ISO_C_BINDING",
        "class(SWIGTYPE_Lamp), intent(in) :: self", "call swigc_Lamp_dim(self%swigptr)",
        "end subroutine", ""]])] ∧
    CxxType.ofSpelling "const Lamp" = .ok (.base true (.named "Lamp")) ∧
    boundRoutines constLamps =
      [("Fixture", [["subroutine swigf_Fixture_test(self)", "use, intrinsic :: ISO_C_BINDING",
          "class(Fixture), intent(in) :: self", "call swigc_Fixture_test(self%swigptr)",
          "end subroutine", ""]]),
        ("Lamp", [["subroutine swigf_Lamp_level(self)", "use, intrinsic :: ISO_C_BINDING",
          "class(Fixture), intent(in) :: self", "call swigc_Lamp_level(self%swigptr)",
          "end subroutine", ""]])] := by
  refine ⟨fun h => ?_, boundRoutines_misreadLamps, by decide +kernel, boundRoutines_constLamps⟩
  have hplain : ∀ cls ∈ misreadLamps.classes, cls.HasPlainName := by
    have hlamp : CxxType.ofSpelling "Lamp" = .ok (.named "Lamp") := by decide +kernel
    intro cls hcls
    rw [List.mem_singleton.1 hcls]
    exact hlamp
  have hfree : ∀ f ∈ (Setup.standard misreadLamps).sources.decls.functions,
      f.kind = .freeFunction := by
    intro f hf
    rw [List.mem_singleton.1 hf]
  obtain ⟨shells, hgenerate, -, -, -⟩ := generate_describes hfree
  have hclosed : (Setup.standard misreadLamps).session.closed.map
      (fun context => (context.opened.name, context.members)) =
        [("Lamp", [misreadLamps.dim])] := by
    rw [Setup.session, Setup.standard, Sources.builtin_eq]
    decide +kernel
  have hdeclarations : (finalState (.standard misreadLamps)).parts.routines.map (·.declarations) =
      [[("class(SWIGTYPE_Lamp), intent(in)", "lamp")],
        [("class(SWIGTYPE_Lamp), intent(in)", "self")]] := by
    rw [Setup.standard, Sources.builtin_eq]
    decide +kernel
  obtain ⟨context, hcontext, heq⟩ := List.map_eq_singleton_iff.1 hclosed
  obtain ⟨hname, hmembers⟩ : context.opened.name = "Lamp" ∧
      context.members = [misreadLamps.dim] := Prod.mk.inj heq
  obtain ⟨routine, hroutine, -, htakes⟩ := h misreadLamps _ (by decide) (fun _ _ => rfl) hplain
    hgenerate context (hcontext ▸ List.mem_singleton_self _) misreadLamps.dim
    (hmembers ▸ List.mem_singleton_self _) rfl
  have hdeclared := htakes.declared
  rw [hname] at hdeclared
  -- No routine of the module takes an object of the class.
  have hnone : ∀ declarations ∈ (finalState (.standard misreadLamps)).parts.routines.map
      (·.declarations), ("class(Lamp), intent(in)", "self") ∉ declarations := by
    rw [hdeclarations]
    decide
  exact hnone _ (List.mem_map_of_mem hroutine) hdeclared

end Generate

end FortranBindings
