import FortranBindings.Proofs.Generator.Description

/-!
# The names of wrappers

The wrappers of a module are functions with C linkage, so that each needs a name of its own. Names
are given away once to callables that are not overloaded; overloaded ones are told apart by the text
behind their symbol and by nothing else. So two wrappers may share a name if one of them is of an
overloaded callable (`Generate.linkageNames_not_nodup`), and only then
(`Generate.linkageNames_of_plain`).
-/

namespace FortranBindings.Generate

variable {setup : Setup}

/-- Overloads of one symbol have names of their own if their texts differ. -/
theorem overload_eq_of_wrapperName_eq {f f' : Callable} {owner owner' : Option Class}
    (h : wrapperName setup f owner = wrapperName setup f' owner')
    (hsymbol : f.symbolIn owner = f'.symbolIn owner') :
    f.overload.getD "" = f'.overload.getD "" := by
  rw [wrapperName, wrapperName, hsymbol] at h
  exact (String.append_right_inj _).1 h

/-- **The names of wrappers of callables that are not overloaded are unique.** These names are the
ones in the headers of the wrappers in the C++ source. -/
theorem linkageNames_of_plain {module : GeneratedModule} (h : generate setup = .ok module) :
    module.cxxSource = (finalState setup).parts.cxxSource setup.sources.decls ∧
    (finalState setup).parts.wrappers.map Wrapper.name = module.bindings.map Binding.wrapper ∧
    module.bindings.map Binding.wrapper =
      (Ledger.callables setup setup.sources.decls.entries).map
        (fun c => wrapperName setup c.1 c.2) ∧
    ((Ledger.callables setup setup.sources.decls.entries).Pairwise fun a b =>
      wrapperName setup a.1 a.2 = wrapperName setup b.1 b.2 →
        (a.1.isOverloaded = true ∨ b.1.isOverloaded = true) ∧
        (a.1.symbolIn a.2 = b.1.symbolIn b.2 → a.1.overload.getD "" = b.1.overload.getD "")) ∧
    module.HasLines
      ((finalState setup).parts.lines setup.sources.decls setup.config) := by
  obtain ⟨shells, hgenerate, hstate, -, -⟩ := generate_describes (freeFunction_of_generate h)
  obtain rfl := Except.ok.inj (hgenerate.symm.trans h)
  refine ⟨rfl, hstate.holds.map_name_wrappers, ?_, ?_, writtenOut_hasLines setup _⟩
  · rw [writtenOut, hstate.holds.bindings, List.map_map]
    rfl
  · refine (Ledger.pairwise_callables setup _).imp fun {a b} hne heq => ⟨?_, ?_⟩
    · by_contra hplain
      rw [not_or, Bool.not_eq_true, Bool.not_eq_true] at hplain
      exact hne hplain.1 hplain.2 heq
    · exact overload_eq_of_wrapperName_eq heq

/-- Two functions of the name `mix` that are told apart by nothing, and one of the name `mix_1`. -/
def clashSetup : Setup where
  sources := ⟨
    { name := "clash"
      items := [
        .function { name := "mix", kind := .freeFunction, overload := some "_1" },
        .function { name := "mix_1", kind := .freeFunction },
        .function { name := "mix", kind := .freeFunction, overload := some "_1" }] },
    fun _ _ => none⟩
  config := {}

theorem freeFunction_of_clash :
    ∀ f ∈ clashSetup.sources.decls.functions, f.kind = .freeFunction := by
  decide

/-- Wrappers of overloaded callables may share a name, with each other and with another one. -/
theorem linkageNames_not_nodup :
    ¬∀ (setup : Setup) (module : GeneratedModule), generate setup = .ok module →
      (module.bindings.map Binding.wrapper).Nodup := by
  intro h
  obtain ⟨shells, hgenerate, hstate, -, -⟩ := generate_describes freeFunction_of_clash
  have hnodup := h clashSetup _ hgenerate
  rw [writtenOut, hstate.holds.bindings] at hnodup
  exact absurd hnodup (by decide +kernel)

theorem linkageNames_of_plain_clash : ∃ module, generate clashSetup = .ok module ∧
    (finalState clashSetup).parts.wrappers.map Wrapper.name =
      ["swigc_mix_1", "swigc_mix_1", "swigc_mix_1"] ∧
    (Ledger.callables clashSetup clashSetup.sources.decls.entries).Pairwise fun a b =>
      a.1.isOverloaded = true ∨ b.1.isOverloaded = true := by
  obtain ⟨shells, hgenerate, -, -, -⟩ := generate_describes freeFunction_of_clash
  obtain ⟨-, hnames, hwrappers, hpairs, -⟩ := linkageNames_of_plain hgenerate
  refine ⟨_, hgenerate, ?_, ?_⟩
  · rw [hnames, hwrappers]
    decide +kernel
  · have hsame : ∀ a ∈ Ledger.callables clashSetup clashSetup.sources.decls.entries,
        wrapperName clashSetup a.1 a.2 = "swigc_mix_1" := by decide +kernel
    refine hpairs.imp_of_mem fun ha hb himp => (himp ?_).1
    rw [hsame _ ha, hsame _ hb]

end FortranBindings.Generate
