import FortranBindings.Proofs.Template.Filling
import FortranBindings.Proofs.Template.Keeping
import FortranBindings.Proofs.Text.RemadeTokens

/-!
# Putting in a class name again

Where a class name was put in for the token of a text, the text that this gives is passed to the
same function again if a typemap was attached before it is looked up. This reports and notes nothing
more, and it leaves the text alone unless the name makes the token again together with what stands
around it (`Lookup.substituteClassName_again`).
-/

namespace FortranBindings

open Text.Template

variable {sources : Sources} {type : CxxType} {text : String} {location : Location}
  {state : LookupState}

namespace Lookup

/-! ## Names that leave the token alone -/

theorem isToken_classToken : IsToken classToken := ⟨by decide, by decide⟩

/-- The name of a placeholder does not make the token again. -/
theorem not_canRemake_placeholder (type : CxxType) :
    ¬CanRemake classToken.toList (placeholderName type).toList := by
  have hhead : (placeholderName type).toList.head? = some 'S' := by
    rw [placeholderName, String.toList_append]
    rfl
  exact not_canRemake_of_head? isToken_classToken (isLiteral_placeholderName type) hhead (by decide)

theorem naming_of_isRemade {remade : List Char}
    (h : IsRemade classToken (classNameOf sources type) remade) (location : Location)
    (state : LookupState) : state.naming sources type location = state := by
  cases hname : sources.fortranName? type with
  | some name => exact LookupState.naming_of_some hname location state
  | none =>
    have hcan := exists_isRemade_iff.1 ⟨remade, h⟩
    rw [classNameOf, hname, Option.getD_none, Sources.placeholderClass] at hcan
    exact absurd hcan (not_canRemake_placeholder _)

/-! ## The second time -/

/-- **Putting in a class name a second time.** Nothing is put in, and nothing changes, exactly if
the token is not mentioned. After the first time there is nothing more to report or to note, and
nothing is put in again exactly if the name did not make the token again. For the texts of a type
this never happens exactly if the name for the type makes the token in no text. -/
theorem substituteClassName_again (sources : Sources) (type : CxxType) :
    (∀ text location state,
      let first := (substituteClassName? sources type text location).run state
      (first.1 = none ↔ Text.mentions text classToken = false) ∧
      (first.1 = none → first.2 = state) ∧
      ∀ found, first.1 = some found → ∀ location',
        let second := (substituteClassName? sources type found location').run first.2
        second.2 = first.2 ∧
          (second.1 = none ↔ ¬IsRemade classToken (classNameOf sources type) text.toList)) ∧
    ((∀ text, ¬IsRemade classToken (classNameOf sources type) text) ↔
      ¬CanRemake classToken.toList (classNameOf sources type).toList) := by
  refine ⟨fun text location state => ?_, ?_⟩
  · dsimp only
    rw [substituteClassName?_run]
    by_cases hmentions : Text.mentions text classToken = true
    · rw [if_pos hmentions]
      refine ⟨by simp [hmentions], nofun, fun found hfound location' => ?_⟩
      obtain rfl := Option.some.inj hfound
      have hremade := Text.mentions_substitute_iff isToken_classToken text
        (classNameOf sources type)
      rw [substituteClassName?_run]
      split
      · next hagain =>
        have hremade := hremade.1 hagain
        exact ⟨naming_of_isRemade hremade _ _, iff_of_false nofun (not_not.2 hremade)⟩
      · next hgone => exact ⟨rfl, iff_of_true rfl (mt hremade.2 hgone)⟩
    · rw [if_neg hmentions]
      exact ⟨iff_of_true rfl (Bool.not_eq_true _ ▸ hmentions), fun _ => rfl, nofun⟩
  · rw [← exists_isRemade_iff, not_exists]

/-- A class that is called `name`. -/
def nameSources : Sources where
  decls := { name := "names", items := [.cls { name := "name" }] }
  store _ _ := none

/-- The name of a class can be the end of the token, whose beginning stands in front of it. -/
theorem not_settled_of_name :
    ¬∀ (sources : Sources) (type : CxxType) (text found : String) (location : Location)
      (state : LookupState),
      ((substituteClassName? sources type text location).run state).1 = some found →
        ((substituteClassName? sources type found location).run
          ((substituteClassName? sources type text location).run state).2).1 = none := by
  intro h
  have hname : nameSources.fortranName? (.named "name") = some "name" := by
    cbv
  have hfirst : ((substituteClassName? nameSources (.named "name") "$fclass$fclassname" {}).run
      {}).1 = some "$fclassname" := by
    rw [substituteClassName?_run, classNameOf, hname]
    decide +kernel
  have hsecond := h nameSources (.named "name") "$fclass$fclassname" "$fclassname" {} {} hfirst
  rw [substituteClassName?_run, if_pos (by decide +kernel)] at hsecond
  cases hsecond

end Lookup

end FortranBindings
