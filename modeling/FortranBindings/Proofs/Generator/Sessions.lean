import FortranBindings.Proofs.Generator.Additions
import FortranBindings.Proofs.Generator.Description
import FortranBindings.Proofs.Generator.Failure

/-!
# Sessions

A generator can be called step by step: a class is opened, members are generated for it whenever it
suits, other classes may be open at the same time, and a call that fails leaves the others to go
on. A session runs such calls from some point on and writes down which of them succeeded
(`Session.run`). What one call does to a session is one of a few things (`Session.Effect`,
`Session.effect_step`), so that an invariant is proved of sessions effect by effect
(`Session.run_induct`).

Generating all declarations of a library is a session (`Generate.all_session`), which shells are
added to in the end (`Generate.finalState_session`). The classes that are closed in it are declared
in the library, with their members (`Setup.isDeclaredIn_of_mem_closed`).
-/

namespace FortranBindings

open Generate

/-- A class that was opened, with the members that were generated for it so far. -/
structure Context where
  opened : OpenClass
  members : List Callable

/-- A call to a generator. Open classes are told apart by their positions. -/
inductive Call
  | function (callable : Callable)
  | member (position : Nat) (callable : Callable)
  | openClass (cls : Class)
  | closeClass (position : Nat)
  | enumeration (enumeration : Enumeration)

/-- A generator that is being called. -/
structure Session where
  state : GeneratorState := {}
  /-- The classes that are open, in the order in which they were opened. -/
  contexts : List Context := []
  /-- The classes that were closed, in the order in which this was done. -/
  closed : List Context := []
  /-- The functions outside of classes that were generated. -/
  functions : List Callable := []

namespace Session

/-- The session after a call. A call for a class that is not open does nothing. -/
def step (setup : Setup) (session : Session) : Call → Session
  | .function callable =>
    match (function setup callable none).run.run session.state with
    | (.ok _, state) => { session with state, functions := session.functions ++ [callable] }
    | (.error _, state) => { session with state }
  | .member position callable =>
    match session.contexts[position]? with
    | none => session
    | some context =>
      match (function setup callable (some context.opened)).run.run session.state with
      | (.ok bound, state) =>
        let context : Context := ⟨bound.getD context.opened, context.members ++ [callable]⟩
        { session with state, contexts := session.contexts.set position context }
      | (.error _, state) => { session with state }
  | .openClass cls =>
    match (openClass cls).run.run session.state with
    | (.ok opened, state) => { session with state, contexts := session.contexts ++ [⟨opened, []⟩] }
    | (.error _, state) => { session with state }
  | .closeClass position =>
    match session.contexts[position]? with
    | none => session
    | some context =>
      { session with
        state := ((closeClass setup context.opened).run.run session.state).2
        contexts := session.contexts.eraseIdx position
        closed := session.closed ++ [context] }
  | .enumeration e =>
    { session with state := ((enumeration e).run.run session.state).2 }

/-- The session after some calls. -/
def run (setup : Setup) (session : Session) (calls : List Call) : Session :=
  calls.foldl (step setup) session

/-- What a call can do to a session. -/
inductive Effect (setup : Setup) (session : Session) : Call → Session → Prop
  | idle (call : Call) : Effect setup session call session
  /-- A name was given away before. -/
  | refused (call : Call) (name : UniqueName) (location previous : Location) :
    Effect setup session call
      { session with state := session.state.refuse name location previous }
  | function {callable : Callable} {made : Made} {lookups : LookupState}
    (hmake : (make setup callable none).run.run session.state.lookups = (.ok made, lookups))
    (hkind : callable.kind.isMember = false) :
    Effect setup session (.function callable)
      { session with
        state := session.state.adding setup callable none made lookups
        functions := session.functions ++ [callable] }
  | member {position : Nat} {callable : Callable} {context : Context} {made : Made}
    {lookups : LookupState} (hcontext : session.contexts[position]? = some context)
    (hmake : (make setup callable (some context.opened)).run.run session.state.lookups =
      (.ok made, lookups)) :
    Effect setup session (.member position callable)
      { session with
        state := session.state.adding setup callable (some context.opened.cls) made lookups
        contexts := session.contexts.set position
          ⟨made.bindIn callable context.opened, context.members ++ [callable]⟩ }
  | opened (cls : Class) (hfree : session.state.classSymbols.find? cls.publicName = none) :
    Effect setup session (.openClass cls)
      { session with
        state := { session.state with
          classSymbols := session.state.classSymbols.insert cls.publicName cls.location
          lookups := remarkBases cls session.state.lookups }
        contexts := session.contexts ++ [⟨{ cls, name := cls.publicName }, []⟩] }
  | closed {position : Nat} {context : Context}
    (hcontext : session.contexts[position]? = some context) :
    Effect setup session (.closeClass position)
      { session with
        state := ((closeClass setup context.opened).run.run session.state).2
        contexts := session.contexts.eraseIdx position
        closed := session.closed ++ [context] }
  | enumeration (e : Enumeration) :
    Effect setup session (.enumeration e)
      { session with state := ((Generate.enumeration e).run.run session.state).2 }

variable {setup : Setup} {session : Session} {call : Call}

/-- A callable that fails leaves the state as it is, or reports its name. -/
theorem exists_refuse_of_error {callable : Callable} {opened : Option OpenClass}
    {state next : GeneratorState} {error : GenerateError}
    (h : (Generate.function setup callable opened).run.run state = (.error error, next)) :
    next = state ∨ ∃ name location previous, next = state.refuse name location previous := by
  rcases function_error h with ⟨-, -, rfl⟩ | ⟨previous, -, rfl⟩
  · exact .inl rfl
  · exact .inr ⟨_, _, previous, rfl⟩

/-- **What a call does** is one of the effects. -/
theorem effect_step (setup : Setup) (session : Session) (call : Call) :
    Effect setup session call (session.step setup call) := by
  cases call with
  | function callable =>
    unfold step
    dsimp only
    split
    · next bound next hrun =>
      obtain ⟨made, lookups, hmake, -, rfl, hmember, -⟩ := function_eq_ok hrun
      have hkind : callable.kind.isMember = false := by
        cases hkind : callable.kind.isMember with
        | true => cases hmember hkind
        | false => rfl
      exact .function hmake hkind
    · next error next hrun =>
      rcases exists_refuse_of_error hrun with rfl | ⟨name, location, previous, rfl⟩
      · exact .idle _
      · exact .refused _ name location previous
  | member position callable =>
    unfold step
    dsimp only
    split
    · exact .idle _
    · next context hcontext =>
      split
      · next bound next hrun =>
        obtain ⟨made, lookups, hmake, rfl, rfl, -, -⟩ := function_eq_ok hrun
        exact .member hcontext hmake
      · next error next hrun =>
        rcases exists_refuse_of_error hrun with rfl | ⟨name, location, previous, rfl⟩
        · exact .idle _
        · exact .refused _ name location previous
  | openClass cls =>
    unfold step
    dsimp only
    cases hfind : session.state.classSymbols.find? cls.publicName with
    | some previous =>
      rw [openClass_of_taken hfind]
      exact .refused _ _ _ _
    | none =>
      rw [openClass_of_free hfind]
      exact .opened cls hfind
  | closeClass position =>
    unfold step
    dsimp only
    split
    · exact .idle _
    · next context hcontext => exact .closed hcontext
  | enumeration e => exact .enumeration e

/-- **An invariant of sessions** holds after any calls if every effect of one of them keeps it. -/
theorem run_induct {inv : Session → Prop} {calls : List Call} (h : inv session)
    (hstep : ∀ call ∈ calls, ∀ session next, inv session → Effect setup session call next →
      inv next) : inv (session.run setup calls) := by
  induction calls generalizing session with
  | nil => exact h
  | cons call calls ih =>
    refine ih (hstep call List.mem_cons_self _ _ h (effect_step setup session call)) ?_
    exact fun other hother => hstep other (List.mem_cons_of_mem _ hother)

/-! ## Declarations as calls -/

section

variable {callable : Callable} {position : Nat} {context : Context} {bound : Option OpenClass}
  {next : GeneratorState} {error : GenerateError}

theorem step_function_of_ok
    (h : (Generate.function setup callable none).run.run session.state = (.ok bound, next)) :
    session.step setup (.function callable) =
      { session with state := next, functions := session.functions ++ [callable] } := by
  simp only [step, h]

theorem step_function_of_error
    (h : (Generate.function setup callable none).run.run session.state = (.error error, next)) :
    session.step setup (.function callable) = { session with state := next } := by
  simp only [step, h]

theorem step_member_of_none (h : session.contexts[position]? = none) :
    session.step setup (.member position callable) = session := by
  simp only [step, h]

theorem step_member_of_ok (hcontext : session.contexts[position]? = some context)
    (h : (Generate.function setup callable (some context.opened)).run.run session.state =
      (.ok bound, next)) :
    session.step setup (.member position callable) = { session with
      state := next
      contexts := session.contexts.set position
        ⟨bound.getD context.opened, context.members ++ [callable]⟩ } := by
  simp only [step, hcontext, h]

theorem step_member_of_error (hcontext : session.contexts[position]? = some context)
    (h : (Generate.function setup callable (some context.opened)).run.run session.state =
      (.error error, next)) :
    session.step setup (.member position callable) = { session with state := next } := by
  simp only [step, hcontext, h]

theorem step_closeClass (h : session.contexts[position]? = some context) :
    session.step setup (.closeClass position) = { session with
      state := ((closeClass setup context.opened).run.run session.state).2
      contexts := session.contexts.eraseIdx position
      closed := session.closed ++ [context] } := by
  simp only [step, h]

theorem step_closeClass_of_none (h : session.contexts[position]? = none) :
    session.step setup (.closeClass position) = session := by
  simp only [step, h]

end

theorem run_cons (session : Session) (call : Call) (calls : List Call) :
    session.run setup (call :: calls) = (session.step setup call).run setup calls :=
  rfl

theorem run_append (session : Session) (calls calls' : List Call) :
    session.run setup (calls ++ calls') = (session.run setup calls).run setup calls' :=
  List.foldl_append

/-- Without an open class there are no members to generate and no class to close. -/
theorem run_of_contexts_eq_nil (h : session.contexts = []) (callables : List Callable) :
    session.run setup (callables.map (.member 0) ++ [.closeClass 0]) = session := by
  have hnone : session.contexts[0]? = none := by rw [h]; rfl
  induction callables with
  | nil => exact step_closeClass_of_none hnone
  | cons callable rest ih =>
    rw [List.map_cons, List.cons_append, run_cons, step_member_of_none hnone]
    exact ih

/-- Members that are generated one after the other are generated by calls for the open class. -/
theorem run_members (cls : Class) {context : Context} (h : session.contexts = [context])
    (callables : List Callable) : ∃ last,
      (members setup cls callables context.opened).run.run session.state =
        (.ok last.opened, (session.run setup (callables.map (.member 0))).state) ∧
      (session.run setup (callables.map (.member 0))).contexts = [last] := by
  induction callables generalizing session context with
  | nil => exact ⟨context, rfl, h⟩
  | cons callable rest ih =>
    have hcontext : session.contexts[0]? = some context := by rw [h]; rfl
    rw [List.map_cons, run_cons, members]
    rcases hfunction : (Generate.function setup callable (some context.opened)).run.run
      session.state with ⟨error | bound, next⟩
    · have hskip : error.isSkip = true := by
        rcases function_error hfunction with ⟨-, hopened, -⟩ | ⟨previous, rfl, -⟩
        · cases hopened
        · rfl
      let left : Session := { session with state := next }
      have hleft : left.contexts = [context] := h
      rw [step_member_of_error hcontext hfunction,
        run_bind_of_ok (orSkip_of_skip hfunction hskip _ _)]
      exact ih hleft
    · obtain ⟨made, lookups, -, rfl, -⟩ := function_eq_ok hfunction
      let added : Session := { session with
        state := next
        contexts := session.contexts.set 0
          ⟨made.bindIn callable context.opened, context.members ++ [callable]⟩ }
      have hadded : added.contexts =
          [⟨made.bindIn callable context.opened, context.members ++ [callable]⟩] := by
        change session.contexts.set 0 _ = _
        rw [h]
        rfl
      rw [step_member_of_ok hcontext hfunction, run_bind_of_ok (orSkip_of_ok hfunction _ _)]
      exact ih hadded

end Session

/-- The calls that generate an item. -/
def Item.calls : Item → List Call
  | .function callable => [.function callable]
  | .cls c => .openClass c :: (c.members.map (.member 0) ++ [.closeClass 0])
  | .enumeration e => [.enumeration e]

/-- The calls that generate all declarations of a library. -/
def Declarations.calls (decls : Declarations) : List Call :=
  decls.items.flatMap Item.calls

/-- The session that generates all declarations of a library. -/
def Setup.session (setup : Setup) : Session :=
  Session.run setup {} setup.sources.decls.calls

theorem Declarations.mem_functions_of_mem_calls {decls : Declarations} {callable : Callable}
    (h : .function callable ∈ decls.calls) : callable ∈ decls.functions := by
  obtain ⟨item, hitem, hcall⟩ := List.mem_flatMap.1 h
  refine List.mem_filterMap.2 ⟨item, hitem, ?_⟩
  cases item with
  | function f =>
    cases List.mem_singleton.1 hcall
    rfl
  | cls c => simp [Item.calls] at hcall
  | enumeration e => simp [Item.calls] at hcall

theorem Declarations.mem_classes_of_mem_calls {decls : Declarations} {cls : Class}
    (h : .openClass cls ∈ decls.calls) : cls ∈ decls.classes := by
  obtain ⟨item, hitem, hcall⟩ := List.mem_flatMap.1 h
  refine List.mem_filterMap.2 ⟨item, hitem, ?_⟩
  cases item with
  | cls c =>
    have hcls : cls = c := by simpa [Item.calls] using hcall
    rw [hcls]
    rfl
  | function => simp [Item.calls] at hcall
  | enumeration => simp [Item.calls] at hcall

theorem Declarations.mem_calls_of_mem_enumerations {decls : Declarations} {e : Enumeration}
    (h : e ∈ decls.enumerations) : .enumeration e ∈ decls.calls := by
  obtain ⟨item, hitem, he⟩ := List.mem_filterMap.1 h
  cases item with
  | enumeration e' =>
    cases he
    exact List.mem_flatMap.2 ⟨_, hitem, List.mem_singleton_self _⟩
  | function | cls => cases he

namespace Generate

variable {setup : Setup} {session : Session}

/-- A class is generated by its calls: it is opened, its members are generated and it is closed. -/
theorem cls_session (h : session.contexts = []) (cls : Class) :
    (orSkip (Generate.cls setup cls) () id).run.run session.state =
        (.ok (), (session.run setup (Item.cls cls).calls).state) ∧
      (session.run setup (Item.cls cls).calls).contexts = [] := by
  rw [Item.calls, Session.run_cons]
  cases hfind : session.state.classSymbols.find? cls.publicName with
  | some previous =>
    let refused : Session := { session with
      state := session.state.refuse (.derivedType cls.publicName) cls.location previous }
    have hstep : session.step setup (.openClass cls) = refused := by
      simp only [Session.step, openClass_of_taken hfind]
      rfl
    have hfailed : (Generate.cls setup cls).run.run session.state = _ :=
      run_bind_of_error (openClass_of_taken hfind)
    have hrefused : refused.contexts = [] := h
    rw [hstep, Session.run_of_contexts_eq_nil hrefused]
    exact ⟨orSkip_of_skip hfailed rfl () id, h⟩
  | none =>
    let opened : Session := { session with
      state := { session.state with
        classSymbols := session.state.classSymbols.insert cls.publicName cls.location
        lookups := remarkBases cls session.state.lookups }
      contexts := [⟨{ cls, name := cls.publicName }, []⟩] }
    have hstep : session.step setup (.openClass cls) = opened := by
      simp only [Session.step, openClass_of_free hfind, h]
      rfl
    have hopened : opened.contexts = [⟨{ cls, name := cls.publicName }, []⟩] := rfl
    obtain ⟨last, hmembers, hlast⟩ :
        ∃ last, (members setup cls cls.members { cls, name := cls.publicName }).run.run
            opened.state =
              (.ok last.opened, (opened.run setup (cls.members.map (.member 0))).state) ∧
          (opened.run setup (cls.members.map (.member 0))).contexts = [last] :=
      Session.run_members cls hopened cls.members
    let generated := opened.run setup (cls.members.map (.member 0))
    have hcontext : generated.contexts[0]? = some last := by rw [hlast]; rfl
    obtain ⟨data, lookups, hclose⟩ := closeClass_eq setup last.opened generated.state
    rw [hstep, Session.run_append, Session.run_cons, Session.step_closeClass hcontext]
    refine ⟨orSkip_of_ok ?_ () id, congrArg (List.eraseIdx · 0) hlast⟩
    refine (run_bind_of_ok (openClass_of_free hfind)).trans ((run_bind_of_ok hmembers).trans ?_)
    change (closeClass setup last.opened).run.run generated.state =
      (.ok (), ((closeClass setup last.opened).run.run generated.state).2)
    rw [hclose]

/-- An item is generated by its calls, unless it is a member. -/
theorem item_session (h : session.contexts = []) {item : Item}
    (hitem : ∀ f, item.function? = some f → f.kind = .freeFunction) :
    (Generate.item setup item).run.run session.state =
        (.ok (), (session.run setup item.calls).state) ∧
      (session.run setup item.calls).contexts = [] := by
  cases item with
  | function callable =>
    have hkind := hitem callable rfl
    rw [Item.calls, Session.run_cons]
    rcases hfunction : (Generate.function setup callable none).run.run session.state with
      ⟨error | bound, next⟩
    · have hskip : error.isSkip = true := by
        have houtcome := function_outcome setup callable none session.state
        rw [hfunction] at houtcome
        cases houtcome with
        | outside hmember _ =>
          rw [hkind] at hmember
          cases hmember
        | taken => rfl
      rw [Session.step_function_of_error hfunction]
      exact ⟨run_bind_of_ok (orSkip_of_skip hfunction hskip _ _), h⟩
    · rw [Session.step_function_of_ok hfunction]
      exact ⟨run_bind_of_ok (orSkip_of_ok hfunction _ _), h⟩
  | cls c => exact cls_session h c
  | enumeration e => exact ⟨rfl, h⟩

theorem items_session (h : session.contexts = []) {items : List Item}
    (hitems : ∀ f ∈ items.filterMap Item.function?, f.kind = .freeFunction) :
    (items.forM (Generate.item setup)).run.run session.state =
        (.ok (), (session.run setup (items.flatMap Item.calls)).state) ∧
      (session.run setup (items.flatMap Item.calls)).contexts = [] := by
  induction items generalizing session with
  | nil => exact ⟨rfl, h⟩
  | cons item items ih =>
    have hfirst : ∀ f, item.function? = some f → f.kind = .freeFunction := fun f hf =>
      hitems f (List.mem_filterMap.2 ⟨item, List.mem_cons_self, hf⟩)
    obtain ⟨hitem, hcontexts⟩ : (Generate.item setup item).run.run session.state =
          (.ok (), (session.run setup item.calls).state) ∧
        (session.run setup item.calls).contexts = [] := item_session h hfirst
    obtain ⟨hrest, hlast⟩ := ih hcontexts fun f hf => by
      obtain ⟨other, hother, hfunction⟩ := List.mem_filterMap.1 hf
      exact hitems f (List.mem_filterMap.2 ⟨other, List.mem_cons_of_mem _ hother, hfunction⟩)
    rw [List.flatMap_cons, Session.run_append]
    exact ⟨(run_bind_of_ok hitem).trans hrest, hlast⟩

/-- **Generating a library is a session** with the calls for its declarations, if no member stands
outside of a class. -/
theorem all_session (h : ∀ f ∈ setup.sources.decls.functions, f.kind = .freeFunction) :
    (all setup).run.run {} =
      (.ok (), setup.session.state) := by
  have hinitial : ({} : Session).contexts = [] := rfl
  exact (items_session hinitial h).1

/-- **Generation ends** with the session for the declarations and a shell for each placeholder class
that was named in it. -/
theorem finalState_session (h : ∀ f ∈ setup.sources.decls.functions, f.kind = .freeFunction) :
    ∃ blocks lookups,
      (Generate.shells setup setup.session.state.lookups.opaqueTypes).run.run setup.session.state =
        (.ok (), finalState setup) ∧
      finalState setup = { setup.session.state with
        lookups
        parts := { setup.session.state.parts with
          types := setup.session.state.parts.types ++ blocks } } ∧
      blocks.map TypeBlock.shellName? = setup.session.state.lookups.opaqueTypes.map some := by
  obtain ⟨state, hall, hshells, -⟩ := generate_runs h
  obtain rfl : setup.session.state = state :=
    (Prod.mk.inj ((all_session h).symm.trans hall)).2
  obtain ⟨blocks, lookups, hrun, hblocks⟩ :=
    shells_eq setup setup.session.state.lookups.opaqueTypes setup.session.state
  exact ⟨blocks, lookups, hshells, (Prod.mk.inj (hshells.symm.trans hrun)).2, hblocks⟩

end Generate

/-! ## What was declared -/

/-- The context goes on with some of the callables as further members, in their order. -/
structure Context.Continues (callables : List Callable) (context last : Context) : Prop where
  cls : last.opened.cls = context.opened.cls
  members : ∃ generated, generated.Sublist callables ∧ last.members = context.members ++ generated

namespace Context.Continues

variable {context last final : Context} {callables more : List Callable}

theorem refl (callables : List Callable) (context : Context) :
    context.Continues callables context :=
  ⟨rfl, [], List.nil_sublist _, (List.append_nil _).symm⟩

theorem trans (h : Continues callables context last) (h' : Continues more last final) :
    Continues (callables ++ more) context final := by
  obtain ⟨generated, hsublist, hmembers⟩ := h.members
  obtain ⟨added, hadded, hfinal⟩ := h'.members
  refine ⟨h'.cls.trans h.cls, generated ++ added, hsublist.append hadded, ?_⟩
  rw [hfinal, hmembers, List.append_assoc]

end Context.Continues

/-- The class is one of the items, and the members that were generated for it are some of those that
it is declared with, in their order. -/
structure Context.IsDeclaredIn (items : List Item) (context : Context) : Prop where
  cls : .cls context.opened.cls ∈ items
  members : context.members.Sublist context.opened.cls.members

theorem Context.IsDeclaredIn.mono {items more : List Item} {context : Context}
    (h : context.IsDeclaredIn items) (hsubset : items ⊆ more) : context.IsDeclaredIn more :=
  ⟨hsubset h.cls, h.members⟩

namespace Session

variable {setup : Setup} {session next : Session}

theorem Effect.continues {context : Context} (h : session.contexts = [context])
    {callable : Callable} (heffect : Effect setup session (.member 0 callable) next) :
    ∃ last, next.contexts = [last] ∧ next.closed = session.closed ∧
      context.Continues [callable] last := by
  cases heffect with
  | idle => exact ⟨context, h, rfl, .refl _ _⟩
  | refused => exact ⟨context, h, rfl, .refl _ _⟩
  | member hcontext hmake =>
    rw [h] at hcontext ⊢
    cases hcontext
    exact ⟨_, rfl, rfl, Made.bindIn_cls, [callable], .refl _, rfl⟩

/-- Calls for the class that is open generate some of the members. -/
theorem run_continues {context : Context} (h : session.contexts = [context])
    (callables : List Callable) :
    ∃ last, (session.run setup (callables.map (.member 0))).contexts = [last] ∧
      (session.run setup (callables.map (.member 0))).closed = session.closed ∧
      context.Continues callables last := by
  induction callables generalizing session context with
  | nil => exact ⟨context, h, rfl, .refl _ _⟩
  | cons callable rest ih =>
    obtain ⟨middle, hmiddle, hclosed, hcontinues⟩ :=
      (effect_step setup session (.member 0 callable)).continues h
    obtain ⟨last, hlast, hclosed', hrest⟩ := ih hmiddle
    exact ⟨last, hlast, hclosed'.trans hclosed, hcontinues.trans hrest⟩

/-- A class that is closed while an item is generated is this item. -/
theorem closed_item (setup : Setup) (h : session.contexts = []) (item : Item) :
    (session.run setup item.calls).contexts = [] ∧
      ∀ context ∈ (session.run setup item.calls).closed,
        context ∈ session.closed ∨ context.IsDeclaredIn [item] := by
  cases item with
  | function callable =>
    rw [Item.calls, run_cons]
    have heffect := effect_step setup session (.function callable)
    generalize session.step setup (.function callable) = next at heffect
    cases heffect <;> exact ⟨h, fun _ => .inl⟩
  | enumeration e => exact ⟨h, fun _ => .inl⟩
  | cls c =>
    rw [Item.calls, run_cons]
    have heffect := effect_step setup session (.openClass c)
    generalize session.step setup (.openClass c) = next at heffect
    cases heffect with
    | idle =>
      rw [run_of_contexts_eq_nil h]
      exact ⟨h, fun _ => .inl⟩
    | refused _ name location previous =>
      let refused : Session :=
        { session with state := session.state.refuse name location previous }
      have hrefused : refused.contexts = [] := h
      rw [run_of_contexts_eq_nil hrefused]
      exact ⟨h, fun _ => .inl⟩
    | opened =>
      let opened : Session := { session with
        state := { session.state with
          classSymbols := session.state.classSymbols.insert c.publicName c.location
          lookups := remarkBases c session.state.lookups }
        contexts := session.contexts ++ [⟨{ cls := c, name := c.publicName }, []⟩] }
      have hopened : opened.contexts = [⟨{ cls := c, name := c.publicName }, []⟩] :=
        congrArg (· ++ _) h
      obtain ⟨last, hlast, hclosed, hcontinues⟩ :
          ∃ last, (opened.run setup (c.members.map (.member 0))).contexts = [last] ∧
            (opened.run setup (c.members.map (.member 0))).closed = session.closed ∧
            Context.Continues c.members ⟨{ cls := c, name := c.publicName }, []⟩ last :=
        run_continues hopened c.members
      have hcontext : (opened.run setup (c.members.map (.member 0))).contexts[0]? = some last := by
        rw [hlast]
        rfl
      obtain ⟨generated, hsublist, hmembers⟩ := hcontinues.members
      rw [run_append, run_cons, step_closeClass hcontext]
      refine ⟨congrArg (List.eraseIdx · 0) hlast, fun context hmem => ?_⟩
      rcases List.mem_append.1 hmem with hmem | hmem
      · exact .inl (hclosed ▸ hmem)
      · obtain rfl := List.mem_singleton.1 hmem
        have hcls : context.opened.cls = c := hcontinues.cls
        have hgenerated : context.members = generated := hmembers
        exact .inr ⟨List.mem_singleton.2 (congrArg Item.cls hcls), by rwa [hcls, hgenerated]⟩

/-- The classes that are closed while items are generated are among them. -/
theorem closed_items (h : session.contexts = []) (items : List Item) :
    (session.run setup (items.flatMap Item.calls)).contexts = [] ∧
      ∀ context ∈ (session.run setup (items.flatMap Item.calls)).closed,
        context ∈ session.closed ∨ context.IsDeclaredIn items := by
  induction items generalizing session with
  | nil => exact ⟨h, fun _ => .inl⟩
  | cons item items ih =>
    obtain ⟨hcontexts, hclosed⟩ := closed_item setup h item
    obtain ⟨hlast, hrest⟩ := ih hcontexts
    rw [List.flatMap_cons, run_append]
    refine ⟨hlast, fun context hmem => ?_⟩
    rcases hrest context hmem with hfirst | hlater
    · exact (hclosed context hfirst).imp_right (·.mono (by simp))
    · exact .inr (hlater.mono (List.subset_cons_self _ _))

end Session

/-- **The classes that are closed** while a library is generated are declared in it. -/
theorem Setup.isDeclaredIn_of_mem_closed {setup : Setup} {context : Context}
    (h : context ∈ setup.session.closed) : context.IsDeclaredIn setup.sources.decls.items := by
  have hinitial : ({} : Session).contexts = [] := rfl
  have hclosed := (Session.closed_items hinitial setup.sources.decls.items).2 context h
  exact hclosed.resolve_left List.not_mem_nil

end FortranBindings
