import FortranBindings.Proofs.Ensures
import FortranBindings.Template.Lookup

/-!
# What lookups keep

Where a text has the token for a class name, the name that stands for the class or enum of a type is
put in, and a type that is built on none is reported and noted (`Lookup.substituteClassName?_run`).

A lookup changes its state in four ways: it keeps an answer, it notes a placeholder class, it
reports that a class is not known, and it reports a miss. An invariant that the first three keep
(`Lookup.Preserves`) is kept by a lookup that misses nothing, and by one that does if the report of
the miss keeps it (`Lookup.find_keeps`).
-/

namespace FortranBindings

/-- The report of a miss. -/
def Request.miss (request : Request) : Diagnostic :=
  ⟨.missingTemplate, request.location, "no \"" ++ request.mainOperation ++
    "\" typemap defined for \"" ++ request.type.signature ++ "\""⟩

/-- The report that a type is built on no class or enum that is known. -/
def Sources.unknownClass (sources : Sources) (type : CxxType) (location : Location) : Diagnostic :=
  ⟨.unknownClassType, location, "\"" ++ type.signature ++
    "\" is not a known class, using opaque type " ++ sources.placeholderClass type⟩

/-- The state once a name was put in for a type: a placeholder is reported and noted. -/
def LookupState.naming (sources : Sources) (type : CxxType) (location : Location)
    (state : LookupState) : LookupState :=
  match sources.fortranName? type with
  | some _ => state
  | none =>
    (state.report (sources.unknownClass type location)).noteOpaque (sources.placeholderClass type)

namespace LookupState

variable {sources : Sources} {type : CxxType}

theorem naming_of_some {name : String} (h : sources.fortranName? type = some name)
    (location : Location) (state : LookupState) : state.naming sources type location = state := by
  rw [naming, h]

theorem naming_of_none (h : sources.fortranName? type = none) (location : Location)
    (state : LookupState) : state.naming sources type location =
      (state.report (sources.unknownClass type location)).noteOpaque
        (sources.placeholderClass type) := by
  rw [naming, h]

end LookupState

namespace Lookup

theorem className_run (sources : Sources) (type : CxxType) (location : Location)
    (state : LookupState) : (className sources type location).run state =
      (classNameOf sources type, state.naming sources type location) := by
  unfold className classNameOf LookupState.naming
  cases sources.fortranName? type <;> rfl

/-- **What is put in** for the token, and what is left behind. -/
theorem substituteClassName?_run (sources : Sources) (type : CxxType) (text : String)
    (location : Location) (state : LookupState) :
    (substituteClassName? sources type text location).run state =
      if Text.mentions text classToken = true then
        (some (Text.substitute text [(classToken, classNameOf sources type)]),
          state.naming sources type location)
      else (none, state) := by
  unfold substituteClassName?
  split
  · rw [StateT.run_bind, className_run]
    rfl
  · rfl

/-- What replacing the class name in a typemap gives is what it gives without any history. -/
theorem withClassName_run (sources : Sources) (type : CxxType) (typemap : Typemap)
    (location : Location) (state : LookupState) :
    (withClassName sources type typemap location).run state =
      (named sources type typemap,
        if Text.mentions typemap.code classToken = true then state.naming sources type location
        else state) := by
  unfold withClassName named
  rw [StateT.run_bind, substituteClassName?_run]
  split <;> rfl

/-- The invariant is kept by whatever a lookup does to its state apart from reporting a miss. -/
structure Preserves (inv : LookupState → Prop) : Prop where
  keep : ∀ state operation signature answer, inv state →
    inv (state.keep operation signature answer)
  noteOpaque : ∀ state type, inv state → inv (state.noteOpaque (placeholderName type))
  report : ∀ state location message, inv state →
    inv (state.report ⟨.unknownClassType, location, message⟩)

variable {sources : Sources} {inv : LookupState → Prop}

theorem Preserves.naming (h : Preserves inv) (type : CxxType) (location : Location)
    {state : LookupState} (hs : inv state) : inv (state.naming sources type location) := by
  cases hname : sources.fortranName? type with
  | some name =>
    rw [LookupState.naming_of_some hname]
    exact hs
  | none =>
    rw [LookupState.naming_of_none hname]
    exact h.noteOpaque _ _ (h.report _ _ _ hs)

theorem withClassName_keeps (h : Preserves inv) (type : CxxType) (typemap : Typemap)
    (location : Location) :
    Ensures inv (withClassName sources type typemap location) fun _ => True := by
  intro state hs
  rw [withClassName_run]
  refine ⟨trivial, ?_⟩
  split
  · exact h.naming type location hs
  · exact hs

theorem searchStore_keeps (h : Preserves inv) {request : Request}
    (hmiss : request.need = .required → sources.search? request.operations request.type = none →
      ∀ state, inv state → inv (state.report request.miss)) :
    Ensures inv (searchStore sources request) fun _ => True := by
  have hkeep answer : Ensures inv
      (modify (·.keep request.mainOperation request.type.signature answer) : Lookup PUnit)
      fun _ => True := .modify fun state hs => h.keep state _ _ _ hs
  unfold searchStore
  cases hfound : sources.search? request.operations request.type with
  | some typemap =>
    refine (withClassName_keeps h _ _ _).bind fun found _ => ?_
    exact (hkeep (.found found)).bind fun _ _ => .pure trivial
  | none =>
    cases hneed : request.need with
    | optional => exact .pure trivial
    | required =>
      have hreport : Ensures inv (report .missingTemplate request.location
          ("no \"" ++ request.mainOperation ++ "\" typemap defined for \"" ++
            request.type.signature ++ "\"")) fun _ => True :=
        .modify (hmiss hneed hfound)
      refine hreport.bind fun _ _ => ?_
      exact (hkeep _).bind fun _ _ => .pure trivial

/-- **A lookup keeps an invariant** if a miss keeps it. -/
theorem find_keeps (h : Preserves inv) {request : Request}
    (hmiss : request.need = .required → sources.search? request.operations request.type = none →
      ∀ state, inv state → inv (state.report request.miss)) :
    Ensures inv (find sources request) fun _ => True := by
  have hget : Ensures inv (get : Lookup LookupState) fun _ => True := fun _ hs => ⟨trivial, hs⟩
  unfold find
  cases request.attached? with
  | some typemap => exact (withClassName_keeps h _ _ _).bind fun _ _ => .pure trivial
  | none =>
    refine hget.bind fun state _ => ?_
    cases state.answer? request.mainOperation request.type.signature with
    | none => exact searchStore_keeps h hmiss
    | some answer =>
      cases answer with
      | found typemap => exact .pure trivial
      | placeholder typemap => cases request.need <;> exact .pure trivial

end Lookup

end FortranBindings
