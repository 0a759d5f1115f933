import FortranBindings.Bridge.Action
import FortranBindings.Proofs.Text.Scopes

/-!
# Names made of unqualified names

A class or callable without a `rename` is called by the identifier made of its unqualified name, and
a method is invoked by its unqualified name. For a name with template arguments that are qualified
themselves this is not the name without its scope (`Text.outerName`), but only the end of it
(`unqualifiedName_exact`).
-/

namespace FortranBindings

open Text

theorem Callable.callStatement_inj {call call' : String} {result : CxxType} {held : Held} :
    callStatement call result held = callStatement call' result held ↔ call = call' := by
  refine ⟨fun h => ?_, fun h => by rw [h]⟩
  unfold callStatement at h
  split at h
  · simpa using h
  · split at h <;> simpa using h

/-- The identifier for a name is the one for its outer name exactly if no letter or digit is hidden
in front of its unqualified name. -/
theorem sanitize_unqualified_eq_iff {name : String} {hidden : List Char}
    (hparts : (outerName name).toList = hidden ++ (unqualified name).toList)
    (hends : hidden = [] ∨ ∃ start, hidden = start ++ [':']) :
    sanitize (unqualified name) = sanitize (outerName name) ↔
      ∀ c ∈ hidden, c.isAlphanum = false := by
  rw [← sanitize_append_eq_iff hends, ← hparts, String.ofList_toList, String.ofList_toList]
  exact eq_comm

/-- The statement that invokes a member function of the object by a name. -/
def Callable.memberCall (callable : Callable) (function : String) (helds : List Held)
    (result : CxxType) (resultHeld : Held) : String :=
  callStatement ("arg1->" ++ function ++ "(" ++
    ", ".intercalate (callable.argumentExpressions helds) ++ ")") result resultHeld

/-- A method is invoked by its outer name exactly if nothing is hidden in front of its unqualified
name. -/
theorem Callable.defaultAction_outerName_iff {callable : Callable} {isConst : Bool}
    (hkind : callable.kind = .method isConst) {hidden : List Char}
    (hparts : (outerName callable.name).toList = hidden ++ (unqualified callable.name).toList)
    (owner : Option Class) (helds : List Held) (result : CxxType) (resultHeld : Held) :
    callable.defaultAction owner helds result resultHeld =
        .ok (callable.memberCall (outerName callable.name) helds result resultHeld) ↔
      hidden = [] := by
  have hsame : unqualified callable.name = outerName callable.name ↔ hidden = [] := by
    rw [← String.toList_inj, hparts, List.self_eq_append_left]
  have haction : callable.defaultAction owner helds result resultHeld =
      .ok (callable.memberCall (unqualified callable.name) helds result resultHeld) := by
    rw [defaultAction.eq_def, hkind]
    rfl
  rw [haction, Except.ok.injEq, memberCall, memberCall, callStatement_inj, ← hsame]
  simp

/-- **What the unqualified name of an entity is.** The outer name, which is what stands behind the
last `::` outside of all template brackets, ends with the unqualified name. A class or callable
without a `rename` is called by the identifier for the outer name exactly if no letter or digit is
hidden in front of the unqualified name there, and a method is invoked by the outer name exactly if
nothing at all is hidden: the last `::` of the name, if it has one, lies outside of all brackets. -/
theorem unqualifiedName_exact (name : String) :
    (∀ part, IsPartBehind IsBalanced name.toList part ↔ part = (outerName name).toList) ∧
      ∃ hidden : List Char,
        (outerName name).toList = hidden ++ (unqualified name).toList ∧
        (hidden = [] ↔ unqualified name = name ∨ ∃ scope, IsBalanced scope ∧
          name.toList = scope ++ ':' :: ':' :: (unqualified name).toList) ∧
        (∀ cls : Class, cls.name = name → cls.rename = none →
          (cls.publicName = sanitize (outerName name) ↔ ∀ c ∈ hidden, c.isAlphanum = false)) ∧
        ∀ callable : Callable, callable.name = name →
          (callable.rename = none → (callable.publicName = sanitize (outerName name) ↔
            ∀ c ∈ hidden, c.isAlphanum = false)) ∧
          ∀ isConst, callable.kind = .method isConst → ∀ owner helds result resultHeld,
            (callable.defaultAction owner helds result resultHeld =
                .ok (callable.memberCall (outerName name) helds result resultHeld) ↔
              hidden = []) := by
  obtain ⟨hidden, hparts, hends, hnone⟩ := exists_outerName_eq name
  have hidentifier := sanitize_unqualified_eq_iff hparts hends
  have houter := isPartBehind_outerName name
  refine ⟨fun part => ⟨fun hpart => hpart.unique houter, fun heq => heq ▸ houter⟩,
    hidden, hparts, hnone, ?_, ?_⟩
  · intro cls hname hrename
    rwa [Class.publicName, publicName, hrename, hname]
  · rintro callable rfl
    refine ⟨fun hrename => ?_, fun isConst hkind owner helds result resultHeld => ?_⟩
    · rwa [Callable.publicName, publicName, hrename]
    · exact Callable.defaultAction_outerName_iff hkind hparts owner helds result resultHeld

/-- In a class template only the scope is qualified, so that nothing is hidden. -/
theorem unqualifiedName_of_nested :
    let item : Callable := { kind := .method true, name := "Box<std::string>::item" }
    ({ name := item.name } : Class).publicName = sanitize (outerName item.name) ∧
      item.publicName = sanitize (outerName item.name) ∧
        item.defaultAction none [] (.builtin .int) (Held.directly (.builtin .int)) =
          .ok (item.memberCall (outerName item.name) [] (.builtin .int)
            (Held.directly (.builtin .int))) := by
  intro item
  obtain ⟨-, hidden, -, hnone, hclass, hcallable⟩ := unqualifiedName_exact "Box<std::string>::item"
  have hnil : hidden = [] :=
    hnone.2 (.inr ⟨"Box<std::string>".toList, by decide, by decide +kernel⟩)
  have hidentifier : ∀ c ∈ hidden, c.isAlphanum = false := by
    rw [hnil]
    nofun
  refine ⟨(hclass _ rfl rfl).2 hidentifier, ((hcallable item rfl).1 rfl).2 hidentifier, ?_⟩
  exact ((hcallable item rfl).2 true rfl none [] _ _).2 hnil

/-- A class whose template argument is qualified is not called by its outer name. -/
theorem not_publicName_outerName : ¬∀ cls : Class, cls.rename = none →
    IsBalanced cls.name.toList → cls.publicName = sanitize (outerName cls.name) := by
  intro hall
  have hbox := hall { name := "ns::Box<std::string>" } rfl (by decide)
  revert hbox
  decide +kernel

end FortranBindings
