import FortranBindings.Proofs.Generator.OpaqueTypes
import FortranBindings.Proofs.Template.Families
import FortranBindings.Proofs.Text.Identifiers

/-!
# The names of placeholder classes

The placeholder for a class that is not known is named after the identifier that is made of the name
of the class (`Declarations.NamesUnknown.placeholderClass`), and the names behind the placeholders
are not compared. So two such classes share a placeholder, and a shell in the module, exactly if
their names have the same runs of letters and digits (`Generate.placeholders_told_apart`). Different
names can have the same runs (`Generate.not_placeholders_apart`).
-/

namespace FortranBindings

/-- Behind its typedefs, the type is built on the name of a class that is not known. Typedefs that
lead to each other are left in place. -/
structure Declarations.NamesUnknown (decls : Declarations) (type : CxxType) (name : String) :
    Prop where
  root_eq : (decls.resolveOrKeep type).root = .named name
  getClass?_eq : decls.getClass? name = none
  getEnumeration?_eq : decls.getEnumeration? name = none

namespace Declarations.NamesUnknown

variable {sources : Sources} {type other : CxxType} {name otherName : String}

/-- A class that is not known has no name in Fortran. -/
theorem fortranName?_eq (h : sources.decls.NamesUnknown type name) :
    sources.fortranName? type = none := by
  rw [Sources.fortranName?_eq_bind]
  cases hresolve : sources.decls.resolve type with
  | error error => rw [resolveOrKeep, hresolve, categorize, hresolve]; rfl
  | ok resolved =>
    have hroot := h.root_eq
    rw [resolveOrKeep_of_resolve hresolve] at hroot
    rw [resolveOrKeep_of_resolve hresolve, categorize_of_resolve hresolve, hroot, categorizeBase,
      h.getClass?_eq, h.getEnumeration?_eq]
    rfl

/-- Its placeholder is named after it. -/
theorem placeholderClass (h : sources.decls.NamesUnknown type name) :
    sources.placeholderClass type = "SWIGTYPE_" ++ Text.sanitize name := by
  rw [Sources.placeholderClass, CxxType.bare, h.root_eq]
  rfl

theorem placeholderClass_eq_iff (h : sources.decls.NamesUnknown type name)
    (hother : sources.decls.NamesUnknown other otherName) :
    sources.placeholderClass type = sources.placeholderClass other ↔
      Text.alphanumericRuns name.toList = Text.alphanumericRuns otherName.toList := by
  rw [h.placeholderClass, hother.placeholderClass, ← Text.sanitize_eq_iff]
  exact String.append_right_inj _

theorem toLower_placeholderClass_eq_iff (h : sources.decls.NamesUnknown type name)
    (hother : sources.decls.NamesUnknown other otherName) :
    (sources.placeholderClass type).toLower = (sources.placeholderClass other).toLower ↔
      (Text.alphanumericRuns name.toList).map (List.map Char.toLower) =
        (Text.alphanumericRuns otherName.toList).map (List.map Char.toLower) := by
  rw [h.placeholderClass, hother.placeholderClass, ← Text.toLower_sanitize_eq_iff]
  simp only [← String.toList_inj, Text.toList_toLower, String.toList_append, List.map_append,
    List.append_cancel_left_eq]

end Declarations.NamesUnknown

namespace Generate

/-- **Which classes that are not known are told apart.** Where such a class has to be named, a
placeholder is put in that is named after the runs of letters and digits in its name, joined with
underscores. So two of them have one placeholder exactly if they have the same runs, and
placeholders that differ in case only exactly if their runs do. Of the shells of a module those for
two such classes are one and the same exactly if the names have the same runs. -/
theorem placeholders_told_apart (sources : Sources) {type other : CxxType}
    {name otherName : String} (h : sources.decls.NamesUnknown type name)
    (hother : sources.decls.NamesUnknown other otherName) :
    let runs (name : String) : List (List Char) := Text.alphanumericRuns name.toList
    let inLowerCase : List (List Char) → List (List Char) := List.map (List.map Char.toLower)
    sources.placeholderClass type =
      "SWIGTYPE_" ++ "_".intercalate ((runs name).map String.ofList) ∧
    (∀ text, Text.mentions text classToken = true → ∀ location state,
      sources.PutsInPlaceholder type text location state) ∧
    (sources.placeholderClass type = sources.placeholderClass other ↔
      runs name = runs otherName) ∧
    ((sources.placeholderClass type).toLower = (sources.placeholderClass other).toLower ↔
      inLowerCase (runs name) = inLowerCase (runs otherName)) ∧
    ∀ config module, generate ⟨sources, config⟩ = .ok module →
      module = writtenOut ⟨sources, config⟩ (finalState ⟨sources, config⟩) ∧
      ∀ i j : Nat, (shellNames ⟨sources, config⟩)[i]? = some (sources.placeholderClass type) →
        (shellNames ⟨sources, config⟩)[j]? = some (sources.placeholderClass other) →
        (i = j ↔ runs name = runs otherName) := by
  intro runs inLowerCase
  have hsame := h.placeholderClass_eq_iff hother
  refine ⟨h.placeholderClass, fun text hmentions =>
    Sources.putsInPlaceholder_of_fortranName? hmentions h.fortranName?_eq, hsame,
    h.toLower_placeholderClass_eq_iff hother, fun config module hgenerate => ?_⟩
  obtain ⟨shells, hwritten, hdescribes, hnodup, -⟩ :=
    generate_describes (freeFunction_of_generate hgenerate)
  have hshells : shellNames ⟨sources, config⟩ = shells := hdescribes.holds.shellNames
  refine ⟨Except.ok.inj (hgenerate.symm.trans hwritten), fun i j hi hj => ?_⟩
  rw [hshells] at hi hj
  rw [← hsame]
  constructor
  · rintro rfl
    exact Option.some.inj (hi.symm.trans hj)
  · intro heq
    refine (List.getElem?_inj (List.getElem?_eq_some_iff.1 hi).1 hnodup).1 ?_
    rw [hi, hj, heq]

/-- A library with a function that takes objects of two classes, which are not declared. -/
def strangers (first second : String) : Declarations where
  name := "strangers"
  items := [.function {
    name := "meet"
    kind := .freeFunction
    parameters := [{ name := "first", type := .pointer (.named first) },
      { name := "second", type := .pointer (.named second) }] }]

theorem namesUnknown_strangers (first second name : String) :
    (strangers first second).NamesUnknown (.pointer (.named name)) name where
  root_eq := by
    have hresolve : (strangers first second).resolve (.pointer (.named name)) =
        .ok (.pointer (.named name)) := Declarations.resolve_of_isResolved fun _ _ => rfl
    rw [Declarations.resolveOrKeep_of_resolve hresolve]
    rfl
  getClass?_eq := rfl
  getEnumeration?_eq := rfl

theorem exists_generate_strangers (first second : String) : ∃ module,
    generate ⟨.builtin (strangers first second), {}⟩ = .ok module := by
  have hfree : ∀ f ∈ (strangers first second).functions, f.kind = .freeFunction := by
    intro f hf
    obtain rfl := List.mem_singleton.1 hf
    rfl
  obtain ⟨shells, hgenerate, -⟩ := generate_describes
    (show ∀ f ∈ (⟨.builtin (strangers first second), {}⟩ : Setup).sources.decls.functions,
      f.kind = .freeFunction from hfree)
  exact ⟨_, hgenerate⟩

/-- Two classes that differ in their runs have two placeholders, and two shells. -/
theorem placeholders_told_apart_strangers :
    let sources : Sources := .builtin (strangers "Gadget" "ns::Widget")
    (∃ module, generate ⟨sources, {}⟩ = .ok module) ∧
    shellNames ⟨sources, {}⟩ = ["SWIGTYPE_Gadget", "SWIGTYPE_ns_Widget"] ∧
    sources.placeholderClass (.pointer (.named "Gadget")) ≠
      sources.placeholderClass (.pointer (.named "ns::Widget")) := by
  intro sources
  obtain ⟨module, hgenerate⟩ := exists_generate_strangers "Gadget" "ns::Widget"
  have hshells : shellNames ⟨sources, {}⟩ = ["SWIGTYPE_Gadget", "SWIGTYPE_ns_Widget"] := by
    show shellNames ⟨.builtin (strangers "Gadget" "ns::Widget"), {}⟩ = _
    rw [Sources.builtin_eq]
    decide +kernel
  have hgadget : sources.decls.NamesUnknown (.pointer (.named "Gadget")) "Gadget" :=
    namesUnknown_strangers _ _ _
  have hwidget : sources.decls.NamesUnknown (.pointer (.named "ns::Widget")) "ns::Widget" :=
    namesUnknown_strangers _ _ _
  obtain ⟨-, -, hsame, -, hmodule⟩ := placeholders_told_apart sources hgadget hwidget
  have hfirst : (shellNames ⟨sources, {}⟩)[0]? =
      some (sources.placeholderClass (.pointer (.named "Gadget"))) := by
    rw [hshells, hgadget.placeholderClass]
    decide
  have hsecond : (shellNames ⟨sources, {}⟩)[1]? =
      some (sources.placeholderClass (.pointer (.named "ns::Widget"))) := by
    rw [hshells, hwidget.placeholderClass]
    decide
  have hruns := ((hmodule {} module hgenerate).2 0 1 hfirst hsecond).not.1 (by decide)
  exact ⟨⟨module, hgenerate⟩, hshells, hsame.not.2 hruns⟩

/-- **Different classes can share a placeholder.** The names `a::b` and `a_b` have the same runs, so
that both classes are `SWIGTYPE_a_b` and the module has one shell for the two. -/
theorem not_placeholders_apart :
    (¬∀ (sources : Sources) (type other : CxxType) (name otherName : String),
      sources.decls.NamesUnknown type name → sources.decls.NamesUnknown other otherName →
      name ≠ otherName →
      ∀ location state, Text.mentions "$fclassname" classToken = true →
        ((Lookup.substituteClassName? sources type "$fclassname" location).run state).1 ≠
          ((Lookup.substituteClassName? sources other "$fclassname" location).run state).1) ∧
    ∃ module, generate ⟨.builtin (strangers "a::b" "a_b"), {}⟩ = .ok module ∧
      shellNames ⟨.builtin (strangers "a::b" "a_b"), {}⟩ = ["SWIGTYPE_a_b"] := by
  constructor
  · intro hall
    let sources : Sources := .builtin (strangers "a::b" "a_b")
    have hfirst : sources.decls.NamesUnknown (.pointer (.named "a::b")) "a::b" :=
      namesUnknown_strangers _ _ _
    have hsecond : sources.decls.NamesUnknown (.pointer (.named "a_b")) "a_b" :=
      namesUnknown_strangers _ _ _
    have hmentions : Text.mentions "$fclassname" classToken = true := by decide
    have hsame : sources.placeholderClass (.pointer (.named "a::b")) =
        sources.placeholderClass (.pointer (.named "a_b")) :=
      (hfirst.placeholderClass_eq_iff hsecond).2 (by decide)
    refine hall sources _ _ _ _ hfirst hsecond (by decide) {} {} hmentions ?_
    rw [(Sources.putsInPlaceholder_of_fortranName? hmentions
        hfirst.fortranName?_eq {} {}).text_eq, hsame,
      (Sources.putsInPlaceholder_of_fortranName? hmentions
        hsecond.fortranName?_eq {} {}).text_eq]
  · obtain ⟨module, hgenerate⟩ := exists_generate_strangers "a::b" "a_b"
    refine ⟨module, hgenerate, ?_⟩
    rw [Sources.builtin_eq]
    decide +kernel

end Generate

end FortranBindings
