import FortranBindings.Declarations.Document
import FortranBindings.Proofs.Generator.Sessions

/-!
# When no module is generated

Generation stops at the first function at the top level that is a member of a class, and nothing
else stops it (`Generate.generate_fails_iff`). A document of declarations has no such function, so
a module is generated for whatever else it holds.
-/

namespace FortranBindings

namespace Declarations

@[simp]
theorem functions_addFunction (decls : Declarations) (f : Callable) :
    (decls.addFunction f).functions = decls.functions ++ [f] :=
  List.filterMap_append

/-- There is no member at the top level of a document that is accepted. -/
theorem find?_isMember_of_ofDocument {document : Json.Document} {decls : Declarations}
    (h : ofDocument document = .ok decls) :
    decls.functions.find? (·.kind.isMember) = none := by
  obtain ⟨read, -, hread⟩ := Except.bind_eq_ok.1 h
  split at hread
  · cases hread
  · next hnone =>
    cases hread
    exact hnone

end Declarations

namespace Generate

variable {setup : Setup} {f : Callable}

/-- Every item but a member is gone through from every state. -/
theorem item_succeeds (setup : Setup) {item : Item}
    (hitem : ∀ f, item.function? = some f → f.kind = .freeFunction) (state : GeneratorState) :
    ∃ next, (Generate.item setup item).run.run state = (.ok (), next) := by
  let session : Session := { state }
  have hrun : (Generate.item setup item).run.run session.state =
      (.ok (), (session.run setup item.calls).state) := (item_session rfl hitem).1
  exact ⟨_, hrun⟩

/-- The items are gone through up to the first member, which ends the run. -/
theorem items_of_member {items : List Item}
    (h : (items.filterMap Item.function?).find? (·.kind.isMember) = some f)
    (state : GeneratorState) : ∃ next, (items.forM (item setup)).run.run state =
      (.error (.failedFunction f.name (.memberOutsideClass f.name)), next) := by
  induction items generalizing state with
  | nil => cases h
  | cons item items ih =>
    by_cases hitem : ∀ g, item.function? = some g → g.kind = .freeFunction
    · obtain ⟨next, hnext⟩ := item_succeeds setup hitem state
      have hrest : (items.filterMap Item.function?).find? (·.kind.isMember) = some f := by
        rw [List.filterMap_cons] at h
        split at h
        · exact h
        · next g hg =>
          have hfree : g.kind.isMember = false := by rw [hitem g hg]; rfl
          rwa [List.find?_cons_of_neg (by rw [hfree]; exact Bool.false_ne_true)] at h
      obtain ⟨last, hlast⟩ := ih hrest next
      exact ⟨last, (run_bind_of_ok hnext).trans hlast⟩
    · -- A member stands at the front, so it is the first one.
      obtain ⟨g, hg⟩ := Classical.not_forall.1 hitem
      obtain ⟨hfunction, hkind⟩ := Classical.not_imp.1 hg
      have hmember : g.kind.isMember = true := decide_eq_true hkind
      obtain rfl := Item.function?_eq_some.1 hfunction
      obtain rfl : g = f := by
        rw [List.filterMap_cons_some hfunction, List.find?_cons, hmember] at h
        exact Option.some.inj h
      have hfailed : (Generate.item setup (.function g)).run.run state =
          (.error (.failedFunction g.name (.memberOutsideClass g.name)), state) :=
        run_bind_of_error (orSkip_of_error (function_of_outside hmember) rfl _ _)
      exact ⟨state, run_bind_of_error hfailed⟩

theorem generate_of_member (h : setup.sources.decls.functions.find? (·.kind.isMember) = some f) :
    generate setup = .error (.failedFunction f.name (.memberOutsideClass f.name)) := by
  obtain ⟨next, hall⟩ : ∃ next, (all setup).run.run {} =
    (.error (.failedFunction f.name (.memberOutsideClass f.name)), next) := items_of_member h {}
  rw [generate, seqRight_eq_bind]
  exact congrArg Prod.fst (run_bind_of_error hall)

theorem generate_of_no_member
    (h : setup.sources.decls.functions.find? (·.kind.isMember) = none) :
    ∃ module, generate setup = .ok module := by
  have hfree : ∀ f ∈ setup.sources.decls.functions, f.kind = .freeFunction := fun f hf => by
    simpa [CallableKind.isMember] using List.find?_eq_none.1 h f hf
  obtain ⟨-, -, -, hgenerate, -⟩ := generate_runs hfree
  exact ⟨_, hgenerate⟩

/-- **Only a misplaced member stops generation.** Whatever the declarations, the typemaps and the
configuration are, no module is generated if and only if a function at the top level is a member of
a class. The error then names the first of these functions, and its cause is that this function was
found outside of a class. For declarations that were read from a document a module is generated. -/
theorem generate_fails_iff (decls : Declarations) (store : TypemapStore) (config : Config) :
    ((∃ error, generate ⟨⟨decls, store⟩, config⟩ = .error error) ↔
      ∃ f ∈ decls.functions, f.kind.isMember = true) ∧
    (∀ error, generate ⟨⟨decls, store⟩, config⟩ = .error error ↔
      ∃ f, decls.functions.find? (·.kind.isMember) = some f ∧
        error = .failedFunction f.name (.memberOutsideClass f.name)) ∧
    (∀ document, Declarations.ofDocument document = .ok decls →
      ∃ module, generate ⟨⟨decls, store⟩, config⟩ = .ok module) := by
  have herror : ∀ error, generate ⟨⟨decls, store⟩, config⟩ = .error error ↔
      ∃ f, decls.functions.find? (·.kind.isMember) = some f ∧
        error = .failedFunction f.name (.memberOutsideClass f.name) := by
    intro error
    constructor
    · intro hfailed
      cases hfind : decls.functions.find? (·.kind.isMember) with
      | none =>
        obtain ⟨made, hmade⟩ : ∃ module, generate ⟨⟨decls, store⟩, config⟩ = .ok module :=
          generate_of_no_member hfind
        cases hfailed.symm.trans hmade
      | some f =>
        have hmember : generate ⟨⟨decls, store⟩, config⟩ =
            .error (.failedFunction f.name (.memberOutsideClass f.name)) :=
          generate_of_member hfind
        exact ⟨f, rfl, Except.error.inj (hfailed.symm.trans hmember)⟩
    · rintro ⟨f, hfind, rfl⟩
      exact generate_of_member hfind
  refine ⟨?_, herror, fun document hdocument => ?_⟩
  · simp only [herror]
    constructor
    · rintro ⟨error, f, hfind, -⟩
      have hmember := List.find?_some hfind
      exact ⟨f, List.mem_of_find?_eq_some hfind, hmember⟩
    · rintro ⟨f, hf, hmember⟩
      have hsome : (decls.functions.find? (·.kind.isMember)).isSome := by
        rw [List.find?_isSome]
        exact ⟨f, hf, hmember⟩
      obtain ⟨first, hfirst⟩ := Option.isSome_iff_exists.1 hsome
      exact ⟨_, first, hfirst, rfl⟩
  · exact generate_of_no_member (Declarations.find?_isMember_of_ofDocument hdocument)

/-- A library with a typedef of itself, which a function returns and a class has a field of. -/
def loops : Json.Document where
  root := .object [("name", .string "loops"),
    ("typedefs", .array [.object [("name", .string "loop"), ("underlying", .string "loop")]]),
    ("items", .array [
      .object [("function", .object [("name", .string "spin"), ("kind", .string "free_function"),
        ("result", .string "loop")])],
      .object [("class", .object [("name", .string "Wheel"), ("members", .array [
        .object [("name", .string "turns"), ("kind", .string "accessor"),
          ("field", .string "turns"), ("role", .string "get"), ("result", .string "loop")],
        .object [("name", .string "turns"), ("kind", .string "accessor"),
          ("field", .string "turns"), ("role", .string "get"), ("result", .string "loop")]])])]])]
  complete := true

/-- A method. -/
def stop : Callable where
  name := "stop"
  kind := .method false

/-- A module is generated for the library without a single typemap, and none once two members were
added at its top level. -/
theorem generate_fails_iff_of_loops : ∃ decls, Declarations.ofDocument loops = .ok decls ∧
    (∃ module, generate ⟨⟨decls, fun _ _ => none⟩, {}⟩ = .ok module) ∧
    generate ⟨⟨(decls.addFunction stop).addFunction { name := "~Wheel", kind := .destructor },
        fun _ _ => none⟩, {}⟩ =
      .error (.failedFunction "stop" (.memberOutsideClass "stop")) := by
  have hread : (Declarations.ofDocument loops).isOk := by decide +kernel
  cases hdecls : Declarations.ofDocument loops with
  | error error => rw [hdecls] at hread; cases hread
  | ok decls =>
    have haccepted := (generate_fails_iff decls (fun _ _ => none) {}).2.2 loops hdecls
    have hnone : decls.functions.find? (·.kind.isMember) = none :=
      Declarations.find?_isMember_of_ofDocument hdecls
    refine ⟨decls, rfl, haccepted, ((generate_fails_iff _ _ {}).2.1 _).2 ⟨stop, ?_, rfl⟩⟩
    rw [Declarations.functions_addFunction, Declarations.functions_addFunction,
      List.find?_append, List.find?_append, hnone]
    rfl

end Generate

end FortranBindings
