import FortranBindings.Proofs.Template.Keeping
import FortranBindings.Proofs.Template.Requests

/-!
# Placeholder classes that lookups note

Where the token for the class name is replaced for a type without a Fortran name, a placeholder
class is named and noted (`Lookup.substituteClassName?_noting`). A request notes the placeholder
that the template for it names, unless its answer was kept before
(`Lookup.find_opaqueTypes`), and a lookup never takes a note away (`Lookup.find_prefix`).
-/

namespace FortranBindings

variable {sources : Sources} {request : Request} {state : LookupState}

/-- The placeholder class that is named where the token for the class name is replaced in a text. -/
def Sources.placeholderIn? (sources : Sources) (type : CxxType) (text : String) : Option String :=
  if Text.mentions text classToken ∧ sources.fortranName? type = none then
    some (sources.placeholderClass type)
  else none

/-- The placeholder class that the template for a request names. -/
def Request.placeholder? (sources : Sources) (request : Request) : Option String :=
  (sources.search? request.operations request.type).bind fun typemap =>
    sources.placeholderIn? request.type typemap.code

namespace LookupState

/-- The notes with one more placeholder class, if one was named. -/
def noting (state : LookupState) : Option String → LookupState
  | some placeholder => state.noteOpaque placeholder
  | none => state

theorem mem_opaqueTypes_noting {placeholder? : Option String} {name : String} :
    name ∈ (state.noting placeholder?).opaqueTypes ↔
      name ∈ state.opaqueTypes ∨ placeholder? = some name := by
  cases placeholder? with
  | none => simp [noting]
  | some placeholder =>
    unfold noting noteOpaque
    by_cases hold : placeholder ∈ state.opaqueTypes
    · simp only [if_pos hold, Option.some.injEq]
      exact ⟨.inl, fun h => h.elim id fun heq => heq ▸ hold⟩
    · simp [if_neg hold, eq_comm]

theorem prefix_noting (state : LookupState) (placeholder? : Option String) :
    state.opaqueTypes <+: (state.noting placeholder?).opaqueTypes := by
  cases placeholder? with
  | none => exact List.prefix_rfl
  | some placeholder =>
    rw [noting, noteOpaque]
    by_cases hold : placeholder ∈ state.opaqueTypes
    · rw [if_pos hold]
    · rw [if_neg hold]
      exact List.prefix_append ..

end LookupState

namespace Lookup

/-! ## What one lookup notes -/

/-- Naming a class in a text notes the placeholder that is named there. -/
theorem opaqueTypes_naming (sources : Sources) (type : CxxType) (text : String)
    (location : Location) (state : LookupState) :
    (if Text.mentions text classToken = true then state.naming sources type location
      else state).opaqueTypes = (state.noting (sources.placeholderIn? type text)).opaqueTypes := by
  unfold Sources.placeholderIn?
  by_cases hmentions : Text.mentions text classToken = true
  · simp only [hmentions, if_true, true_and]
    cases hname : sources.fortranName? type with
    | some name =>
      rw [LookupState.naming_of_some hname, if_neg nofun]
      rfl
    | none =>
      rw [LookupState.naming_of_none hname, if_pos rfl]
      change ((state.report _).noteOpaque _).opaqueTypes = (state.noteOpaque _).opaqueTypes
      unfold LookupState.noteOpaque LookupState.report
      split <;> rfl
  · simp only [hmentions, Bool.false_eq_true, if_false, false_and]
    rfl

/-- **A placeholder class that is named is noted.** The text has the placeholder in place of the
token, and nothing but that placeholder is added to the notes. -/
theorem substituteClassName?_noting (sources : Sources) (type : CxxType) (text : String)
    (location : Location) (state : LookupState) :
    ((substituteClassName? sources type text location).run state).2.opaqueTypes =
        (state.noting (sources.placeholderIn? type text)).opaqueTypes ∧
      ∀ placeholder, sources.placeholderIn? type text = some placeholder →
        ((substituteClassName? sources type text location).run state).1 =
          some (Text.substitute text [(classToken, placeholder)]) := by
  rw [substituteClassName?_run, ← opaqueTypes_naming sources type text location]
  constructor
  · split <;> rfl
  · intro placeholder hplaceholder
    obtain ⟨⟨hmentions, hname⟩, hsame⟩ := Option.ite_none_right_eq_some.1 hplaceholder
    rw [if_pos hmentions, classNameOf, hname, Option.getD_none, Option.some.inj hsame]

theorem withClassName_opaqueTypes (sources : Sources) (type : CxxType) (typemap : Typemap)
    (location : Location) (state : LookupState) :
    ((withClassName sources type typemap location).run state).2.opaqueTypes =
      (state.noting (sources.placeholderIn? type typemap.code)).opaqueTypes := by
  rw [withClassName_run, ← opaqueTypes_naming sources type typemap.code location]

/-- **What a request notes:** the placeholder that its template names, unless the answer was kept
before. -/
theorem find_opaqueTypes (ha : request.attached? = none) (state : LookupState) :
    ((find sources request).run state).2.opaqueTypes =
      if state.kept? request = none then
        (state.noting (request.placeholder? sources)).opaqueTypes
      else state.opaqueTypes := by
  have hget : ∀ f : LookupState → Lookup (Option Typemap),
      (get >>= f).run state = (f state).run state := fun _ => rfl
  have hkey : state.answer? request.mainOperation request.type.signature = state.kept? request :=
    rfl
  unfold find
  rw [ha]
  dsimp only
  rw [hget, hkey]
  cases hkept : state.kept? request with
  | some answer =>
    rw [if_neg nofun]
    cases answer with
    | found typemap => rfl
    | placeholder typemap => cases request.need <;> rfl
  | none =>
    rw [if_pos rfl]
    dsimp only
    unfold searchStore Request.placeholder?
    cases hfound : sources.search? request.operations request.type with
    | none => cases request.need <;> rfl
    | some typemap =>
      have hnoting := withClassName_opaqueTypes sources request.type typemap request.location state
      rcases hrun : (withClassName sources request.type typemap request.location).run state with
        ⟨named, next⟩
      rw [hrun] at hnoting
      dsimp only
      rw [StateT.run_bind, hrun]
      exact hnoting

/-- Notes are added at the end only. -/
theorem find_prefix (sources : Sources) (request : Request) (names : List String) :
    Ensures (names <+: ·.opaqueTypes) (find sources request) fun _ => True :=
  find_keeps
    { keep := fun _ _ _ _ h => h
      noteOpaque := fun state type h => h.trans (state.prefix_noting (some (placeholderName type)))
      report := fun _ _ _ h => h }
    fun _ _ _ h => h

end Lookup

end FortranBindings
