import FortranBindings.Proofs.Bridge.Results
import FortranBindings.Proofs.Declarations.Flattening
import FortranBindings.Proofs.Generator.Additions

/-!
# The results of wrappers

Whether a wrapper has a variable for a result is decided from the type as it is declared, whether it
returns something from the C type that is looked up, and whether the variable is assigned from the
kind of the entity. Where the type of the result and the types behind typedefs can be read from
spellings, the three agree for a result that is declared as `void`, and otherwise exactly if the
kind keeps a result and the type does not stand for `void` through a typedef
(`Generate.handsResultOver_iff`).
-/

namespace FortranBindings

/-- The wrapper has a variable for the result exactly if it returns something, and then the action
assigns the variable. -/
structure Wrapper.HandsResultOver (wrapper : Wrapper) (action : String) : Prop where
  declares_iff : wrapper.DeclaresResult ↔ wrapper.isSubroutine = false
  assigns : wrapper.DeclaresResult → AssignsResult action

namespace Generate

variable {setup : Setup} {decls : Declarations} {callable : Callable} {owner : Option Class}
  {state : GeneratorState} {made : Bridge}

/-- A bridge is made by the lookups that come after those before. -/
theorem make_of_bridge (h : ((bridge setup callable owner).run.run state).1 = .ok made) :
    ((Bridge.make setup.sources callable owner (wrapperName setup callable owner)).run.run
      state.lookups).1 = .ok made := by
  by_cases hfree : callable.isOverloaded = false →
      state.functionSymbols.find? (wrapperName setup callable owner) = none
  · rwa [bridge_eq hfree] at h
  · push Not at hfree
    obtain ⟨hoverloaded, htaken⟩ := hfree
    obtain ⟨previous, hfind⟩ := Option.ne_none_iff_exists'.1 htaken
    rw [bridge_of_taken hoverloaded hfind] at h
    cases h

/-- With the built-in table a wrapper returns nothing exactly if the type of its result does. -/
theorem isSubroutine_iff (hsources : setup.sources = .builtin decls)
    (htypedefs : decls.HasSpelledTypedefs) (hresult : (callable.resultIn owner).IsSpelled)
    (hstate : state.lookups.Sound (.builtin decls))
    (h : ((bridge setup callable owner).run.run state).1 = .ok made) :
    made.isSubroutine = true ↔ decls.ReturnsNothing (callable.resultIn owner) := by
  have hreturns := Bridge.make_returns (make_of_bridge h)
  rw [← Lookup.code_ctypeOut_eq_void_iff htypedefs hresult hstate callable.location,
    Bridge.isSubroutine, Wrapper.isSubroutine, decide_eq_true_iff, hreturns.returnType, hsources]

/-- **When a wrapper hands its result over.** With the built-in table, from any state whose kept
answers are sound, and for a type of the result and types behind typedefs that spellings name, the
code of a wrapper runs the action that follows from the kind of the callable before the code that
makes what is returned. The wrapper hands the result over if it is declared as `void`, and otherwise
exactly if the kind keeps a result and the type does not stand for `void`. -/
theorem handsResultOver_iff (hsources : setup.sources = .builtin decls)
    (htypedefs : decls.HasSpelledTypedefs) (hresult : (callable.resultIn owner).IsSpelled)
    (hstate : state.lookups.Sound (.builtin decls)) (haction : callable.action = none)
    (h : ((bridge setup callable owner).run.run state).1 = .ok made) :
    ∃ helds action before after,
      callable.defaultAction owner helds (callable.resultIn owner)
        (Held.ofResult decls (callable.resultIn owner)) = .ok action ∧
      made.wrapper.statements =
        before ++ Bridge.actionLines callable action ++ made.wrapper.output ++ after ∧
      (made.wrapper.HandsResultOver action ↔ (callable.resultIn owner).isVoid = true ∨
        (callable.kind.keepsResult = true ∧
          ¬decls.ReturnsNothing (callable.resultIn owner))) := by
  have hreturns := Bridge.make_returns (make_of_bridge h)
  have hsubroutine := isSubroutine_iff hsources htypedefs hresult hstate h
  obtain ⟨slots, action, hof, hlines⟩ := hreturns.action
  rw [Bridge.actionOf, haction, hsources] at hof
  refine ⟨_, action, made.wrapper.input ++ made.wrapper.check,
    made.wrapper.argout ++ made.wrapper.cleanup, hof, ?_, ?_⟩
  · rw [Wrapper.statements, hlines]
    simp only [List.append_assoc]
  · cases hvoid : (callable.resultIn owner).isVoid with
    | true =>
      have hnothing := hsubroutine.2 (Declarations.returnsNothing_of_isVoid hvoid)
      have hdeclares : ¬made.wrapper.DeclaresResult := by
        rw [hreturns.declaresResult_iff, hvoid]
        exact Bool.false_ne_true ∘ Eq.symm
      refine iff_of_true ⟨iff_of_false hdeclares ?_, fun h => absurd h hdeclares⟩ (.inl rfl)
      intro hfunction
      exact Bool.false_ne_true (hfunction.symm.trans hnothing)
    | false =>
      have hdeclares := hreturns.declaresResult_iff.2 hvoid
      have hassigns := Callable.assigns_defaultAction_iff hvoid hof
      rw [or_iff_right Bool.false_ne_true, ← hassigns, ← hsubroutine]
      constructor
      · intro hhands
        have hfunction := hhands.declares_iff.1 hdeclares
        exact ⟨hhands.assigns hdeclares, Bool.eq_false_iff.1 hfunction⟩
      · rintro ⟨hassigned, hsome⟩
        exact ⟨iff_of_true hdeclares (Bool.eq_false_iff.2 hsome), fun _ => hassigned⟩

/-- Declarations with a name for `void`. -/
def nothingDeclarations : Declarations where
  name := "nothing"
  typedefs := Dict.ofList [("nothing", .void)]

theorem hasSpelledTypedefs_nothingDeclarations : nothingDeclarations.HasSpelledTypedefs := by
  intro name underlying hfind
  change List.lookup name [("nothing", CxxType.void)] = some underlying at hfind
  rw [Dict.lookup_cons_eq_ite] at hfind
  split at hfind
  · cases hfind
    exact CxxType.isSpelled_iff.2 trivial
  · cases hfind

/-- A function whose result is declared with a type. -/
def measure (result : CxxType) : Callable where
  name := "measure"
  kind := .freeFunction
  result := result

/-- The generator for these declarations, with the built-in table. -/
def nothingSetup : Setup := ⟨.builtin nothingDeclarations, {}⟩

/-- A bridge is made for the function. -/
theorem exists_bridge_measure (result : CxxType) :
    ∃ made, ((bridge nothingSetup (measure result) none).run.run {}).1 = .ok made := by
  have hkind : (measure result).kind = .constructor → (none : Option Class).isSome := by
    intro hconstructor
    cases hconstructor
  have hfree : (measure result).isOverloaded = false →
      ({} : GeneratorState).functionSymbols.find? (wrapperName nothingSetup (measure result) none) =
        none := fun _ => rfl
  obtain ⟨made, lookups, hrun, -⟩ := bridge_of_free hkind hfree
  exact ⟨made, congrArg Prod.fst hrun⟩

/-- The function hands its result over if it is a number. -/
theorem handsResultOver_of_measure : ∃ made action,
    ((bridge nothingSetup (measure (.builtin .double)) none).run.run {}).1 = .ok made ∧
      made.wrapper.HandsResultOver action := by
  obtain ⟨made, hmade⟩ := exists_bridge_measure (.builtin .double)
  have hsources : nothingSetup.sources = .builtin nothingDeclarations := rfl
  have hsound : ({} : GeneratorState).lookups.Sound (.builtin nothingDeclarations) :=
    LookupState.sound_empty _
  have hspelled : ((measure (.builtin .double)).resultIn none).IsSpelled :=
    CxxType.isSpelled_iff.2 trivial
  obtain ⟨helds, action, -, -, -, -, hhands⟩ := handsResultOver_iff hsources
    hasSpelledTypedefs_nothingDeclarations hspelled hsound rfl hmade
  refine ⟨made, action, hmade, hhands.2 (.inr ⟨rfl, fun h => ?_⟩)⟩
  obtain ⟨resolved, hresolve, hvoid⟩ := h.resolvesToVoid
  have hself : nothingDeclarations.resolve (.builtin .double) = .ok (.builtin .double) :=
    Declarations.resolve_of_isResolved nofun
  obtain rfl := Except.ok.inj (hself.symm.trans hresolve)
  cases hvoid

/-- **A result may be kept that is not returned.** The wrapper of a function that returns `void` by
another name has a variable for the result, although it returns nothing. No template is missed. -/
theorem not_handsResultOver :
    let run := (bridge nothingSetup (measure (.named "nothing")) none).run.run {}
    ∃ made, run.1 = .ok made ∧ run.2.lookups.diagnostics = [] ∧ made.wrapper.DeclaresResult ∧
      made.isSubroutine = true := by
  intro run
  obtain ⟨made, hmade⟩ := exists_bridge_measure (.named "nothing")
  have hsources : nothingSetup.sources = .builtin nothingDeclarations := rfl
  have hsound : ({} : GeneratorState).lookups.Sound (.builtin nothingDeclarations) :=
    LookupState.sound_empty _
  have hspelled : ((measure (.named "nothing")).resultIn none).IsSpelled :=
    ⟨"nothing", by decide +kernel⟩
  have hresolve : nothingDeclarations.resolve (.named "nothing") = .ok .void :=
    Declarations.resolve_of_find? (by decide) nofun
  have hreturns := Bridge.make_returns (make_of_bridge hmade)
  have hnone : run.2.lookups.diagnostics = [] := by
    simp only [run, nothingSetup, Sources.builtin_eq]
    decide +kernel
  refine ⟨made, hmade, hnone, hreturns.declaresResult_iff.2 rfl, ?_⟩
  rw [isSubroutine_iff hsources hasSpelledTypedefs_nothingDeclarations hspelled hsound hmade]
  exact ⟨⟨_, hresolve, rfl⟩, by decide, by decide⟩

end Generate

end FortranBindings
