import FortranBindings.Proofs.Template.ClassNames
import FortranBindings.Proofs.Template.EnumFallback
import FortranBindings.Proofs.Template.Placeholders

/-!
# Generic names and class names

What a type is built on is looked at twice: the resolved type has a generic name in signatures, and
its bare base has a name that is put in for the token of a template. Both depend on one category
only (`Sources.genericName?_eq_bind`, `Sources.fortranName?_eq_bind`). So the name of an enum is put
in exactly where `SWIGENUM` stands for the base, the name of a class or a placeholder where
`SWIGTYPE` does, and a placeholder where there is no generic name (`Sources.genericName_agrees`).
-/

namespace FortranBindings

/-! ## Categories -/

/-- What it takes for a base to be in a category. A name that is both a class and an enum is a
class, unless it is spelled with `enum`. -/
inductive Declarations.IsIn (decls : Declarations) : CxxType.Base → TypeCategory → Prop
  | void : IsIn decls (.builtin .void) .void
  | builtin {kind : Builtin} (hkind : kind ≠ .void) : IsIn decls (.builtin kind) (.builtin kind)
  | cls {name : String} {cls : Class} (hcls : decls.getClass? name = some cls) :
    IsIn decls (.named name) (.cls cls)
  | plainEnumeration {name : String} {number : Nat} {e : Enumeration}
    (hcls : decls.getClass? name = none) (henum : decls.getEnumeration? name = some (number, e)) :
    IsIn decls (.named name) (.enumeration e)
  | unknown {name : String} (hcls : decls.getClass? name = none)
    (henum : decls.getEnumeration? name = none) : IsIn decls (.named name) (.unknown name)
  | enumeration {name : String} {number : Nat} {e : Enumeration}
    (henum : decls.getEnumeration? name = some (number, e)) :
    IsIn decls (.enumeration name) (.enumeration e)
  | unknownEnumeration {name : String} (henum : decls.getEnumeration? name = none) :
    IsIn decls (.enumeration name) (.unknownEnumeration name)

/-- The type resolves to one with a base of the category. -/
def Declarations.IsBuiltOn (decls : Declarations) (type : CxxType) (category : TypeCategory) :
    Prop :=
  ∃ resolved, decls.resolve type = .ok resolved ∧ decls.IsIn resolved.root category

namespace TypeCategory

/-- The name that stands for the types of the category in signatures. -/
def genericName? : TypeCategory → Option String
  | enumeration _ | unknownEnumeration _ => some genericEnumeration
  | cls _ | unknown _ => some genericClass
  | void | builtin _ => none

/-- The name that the types of the category have in Fortran. -/
def fortranName? : TypeCategory → Option String
  | enumeration e => some (e.marker?.getD fallbackEnumerationKind)
  | unknownEnumeration _ => some fallbackEnumerationKind
  | cls declared => some declared.publicName
  | unknown _ | void | builtin _ => none

variable {category : TypeCategory}

theorem genericName?_eq_enumeration_iff :
    category.genericName? = some genericEnumeration ↔ category.isEnumeration = true := by
  have hne : genericClass ≠ genericEnumeration := by decide
  cases category <;> simp [genericName?, isEnumeration, hne]

theorem genericName?_eq_class_iff :
    category.genericName? = some genericClass ↔ category.isClassLike = true := by
  have hne : genericEnumeration ≠ genericClass := by decide
  cases category <;> simp [genericName?, isClassLike, hne]

theorem genericName?_eq_none_iff :
    category.genericName? = none ↔ category = .void ∨ ∃ kind, category = .builtin kind := by
  cases category <;> simp [genericName?]

end TypeCategory

namespace Declarations

variable {decls : Declarations} {type : CxxType}

theorem isIn_categorizeBase (decls : Declarations) (base : CxxType.Base) :
    decls.IsIn base (decls.categorizeBase base) := by
  unfold categorizeBase
  split
  · exact .void
  · next hkind => exact .builtin hkind
  · split
    · next hcls => exact .cls hcls
    · next hcls henum => exact .plainEnumeration hcls henum
    · next hcls henum => exact .unknown hcls henum
  · split
    · next henum => exact .enumeration henum
    · next henum => exact .unknownEnumeration henum

/-- A type in a category is built on something in it. -/
theorem isBuiltOn_of_categorize {category : TypeCategory}
    (h : decls.categorize (decls.resolveOrKeep type) = .ok category) :
    decls.IsBuiltOn type category := by
  obtain ⟨hresolve, rfl⟩ := eq_categorizeBase_of_categorize h
  exact ⟨_, hresolve, decls.isIn_categorizeBase _⟩

/-- Only a type that does not resolve is in no category. -/
theorem resolve_eq_error_of_categorize {error : RecursiveTypedef}
    (h : decls.categorize (decls.resolveOrKeep type) = .error error) :
    ∃ error, decls.resolve type = .error error := by
  cases hresolve : decls.resolve type with
  | error error => exact ⟨error, rfl⟩
  | ok resolved =>
    rw [resolveOrKeep_of_resolve hresolve, categorize_of_resolve hresolve] at h
    cases h

end Declarations

/-! ## What is put in -/

theorem LookupState.diagnostics_noteOpaque (state : LookupState) (name : String) :
    (state.noteOpaque name).diagnostics = state.diagnostics := by
  unfold noteOpaque
  split <;> rfl

namespace Sources

variable {sources : Sources} {type : CxxType} {text name : String}

/-- The generic name is that of the category of the resolved type. -/
theorem genericName?_eq_bind (sources : Sources) (resolved : CxxType) :
    sources.genericName? resolved =
      (sources.decls.categorize resolved).toOption.bind TypeCategory.genericName? := by
  unfold genericName?
  cases sources.decls.categorize resolved with
  | error error => rfl
  | ok category => cases category <;> rfl

/-- The name in Fortran is that of the same category. -/
theorem fortranName?_eq_bind (sources : Sources) (type : CxxType) :
    sources.fortranName? type =
      (sources.decls.categorize (sources.decls.resolveOrKeep type)).toOption.bind
        TypeCategory.fortranName? := by
  rw [fortranName?, Declarations.categorize_bare]
  cases sources.decls.categorize (sources.decls.resolveOrKeep type) with
  | error error => rfl
  | ok category => cases category <;> rfl

/-- The name is put in for the token, and nothing is reported or noted. -/
def PutsIn (sources : Sources) (type : CxxType) (text name : String) : Prop :=
  ∀ location state, (Lookup.substituteClassName? sources type text location).run state =
    (some (Text.substitute text [(classToken, name)]), state)

/-- A placeholder is put in for the token. There is one report, which says that the class is not
known, and the placeholder is noted. -/
structure PutsInPlaceholder (sources : Sources) (type : CxxType) (text : String)
    (location : Location) (state : LookupState) : Prop where
  text_eq : ((Lookup.substituteClassName? sources type text location).run state).1 =
    some (Text.substitute text [(classToken, sources.placeholderClass type)])
  diagnostics_eq : ((Lookup.substituteClassName? sources type text location).run
    state).2.diagnostics = state.diagnostics ++ [sources.unknownClass type location]
  mem_opaqueTypes : ∀ other, other ∈ ((Lookup.substituteClassName? sources type text location).run
    state).2.opaqueTypes ↔ other ∈ state.opaqueTypes ∨ other = sources.placeholderClass type
  answers_eq : ((Lookup.substituteClassName? sources type text location).run state).2.answers =
    state.answers

theorem putsIn_of_fortranName? (hmentions : Text.mentions text classToken = true)
    (hname : sources.fortranName? type = some name) : sources.PutsIn type text name := by
  intro location state
  rw [Lookup.substituteClassName?_run, if_pos hmentions, LookupState.naming_of_some hname,
    Lookup.classNameOf, hname, Option.getD_some]

theorem putsInPlaceholder_of_fortranName? (hmentions : Text.mentions text classToken = true)
    (hname : sources.fortranName? type = none) (location : Location) (state : LookupState) :
    sources.PutsInPlaceholder type text location state := by
  have hrun : (Lookup.substituteClassName? sources type text location).run state =
      (some (Text.substitute text [(classToken, sources.placeholderClass type)]),
        (state.report (sources.unknownClass type location)).noteOpaque
          (sources.placeholderClass type)) := by
    rw [Lookup.substituteClassName?_run, if_pos hmentions, LookupState.naming_of_none hname,
      Lookup.classNameOf, hname, Option.getD_none]
  constructor <;> rw [hrun]
  · exact LookupState.diagnostics_noteOpaque _ _
  · intro other
    rw [eq_comm (a := other), ← Option.some.injEq]
    exact (LookupState.mem_opaqueTypes_noting :
      other ∈ ((state.report _).noting (some _)).opaqueTypes ↔ _)
  · exact LookupState.answers_noteOpaque _ _

/-- **Generic names and class names agree**, for every type, also if it does not resolve. `SWIGENUM`
stands for the base in signatures exactly if the class name is looked for among the enums, and then
it is the marker of the enum or `C_INT`. Where `SWIGTYPE` stands for the base, it is the name of the
declared class that the type is built on, or a placeholder if it is built on an unknown name. Where
neither of them does, the type does not resolve or is built on a builtin, and a placeholder is put
in. Every placeholder is reported once, and nothing else is. -/
theorem genericName_agrees (sources : Sources) (type : CxxType)
    (hmentions : Text.mentions text classToken = true) :
    let resolved := sources.decls.resolveOrKeep type
    let generic? := sources.genericName? resolved
    let category := sources.decls.categorize resolved.bare
    (generic? = some genericEnumeration ↔
      ∃ found, category = .ok found ∧ found.isEnumeration = true) ∧
    (∀ e, category = .ok (.enumeration e) → sources.decls.IsBuiltOn type (.enumeration e) ∧
      sources.PutsIn type text (e.marker?.getD fallbackEnumerationKind)) ∧
    (∀ name, category = .ok (.unknownEnumeration name) →
      sources.decls.IsBuiltOn type (.unknownEnumeration name) ∧
      sources.PutsIn type text fallbackEnumerationKind) ∧
    (generic? = some genericClass →
      (∃ cls, sources.decls.IsBuiltOn type (.cls cls) ∧
        sources.PutsIn type text cls.publicName) ∨
      (∃ name, sources.decls.IsBuiltOn type (.unknown name)) ∧
        ∀ location state, sources.PutsInPlaceholder type text location state) ∧
    (generic? = none →
      ((∃ error, sources.decls.resolve type = .error error) ∨
        sources.decls.IsBuiltOn type .void ∨
        ∃ kind, sources.decls.IsBuiltOn type (.builtin kind)) ∧
      ∀ location state, sources.PutsInPlaceholder type text location state) ∧
    (generic? = some genericEnumeration ∨ generic? = some genericClass ∨ generic? = none) := by
  dsimp only
  have hput (name : String) (hname : sources.fortranName? type = some name) :
      sources.PutsIn type text name :=
    putsIn_of_fortranName? hmentions hname
  have hplaceholder (hname : sources.fortranName? type = none) :=
    putsInPlaceholder_of_fortranName? hmentions hname
  rw [fortranName?_eq_bind] at hput hplaceholder
  rw [Declarations.categorize_bare, genericName?_eq_bind]
  cases hcategory : sources.decls.categorize (sources.decls.resolveOrKeep type) with
  | error error =>
    rw [hcategory] at hplaceholder
    exact ⟨iff_of_false nofun nofun, nofun, nofun, nofun,
      fun _ => ⟨.inl (Declarations.resolve_eq_error_of_categorize hcategory), hplaceholder rfl⟩,
      .inr (.inr rfl)⟩
  | ok category =>
    have hbuilt := Declarations.isBuiltOn_of_categorize hcategory
    rw [hcategory] at hput hplaceholder
    simp only [Except.toOption, Option.bind_some] at hput hplaceholder ⊢
    refine ⟨?_, ?_, ?_, fun hclass => ?_, fun hnone => ?_, ?_⟩
    · rw [TypeCategory.genericName?_eq_enumeration_iff]
      exact ⟨fun h => ⟨category, rfl, h⟩, fun ⟨_, hsame, h⟩ => Except.ok.inj hsame ▸ h⟩
    · rintro e ⟨⟩
      exact ⟨hbuilt, hput _ rfl⟩
    · rintro name ⟨⟩
      exact ⟨hbuilt, hput _ rfl⟩
    · rw [TypeCategory.genericName?_eq_class_iff] at hclass
      cases category with
      | cls cls => exact .inl ⟨cls, hbuilt, hput _ rfl⟩
      | unknown name => exact .inr ⟨⟨name, hbuilt⟩, hplaceholder rfl⟩
      | void | builtin | enumeration | unknownEnumeration => cases hclass
    · obtain rfl | ⟨kind, rfl⟩ := TypeCategory.genericName?_eq_none_iff.1 hnone
      · exact ⟨.inr (.inl hbuilt), hplaceholder rfl⟩
      · exact ⟨.inr (.inr ⟨kind, hbuilt⟩), hplaceholder rfl⟩
    · cases category <;> simp [TypeCategory.genericName?]

/-- A typedef of a `const` enum, and two typedefs that lead to each other. -/
def shades : Sources where
  decls :=
    { name := "shades"
      items := [.enumeration { name := "Shade", variants := [("Dark", 0)] }]
      typedefs := Dict.ofList [("shade_t", .base true (.named "Shade")), ("back", .named "forth"),
        ("forth", .declared false .pointer (.named "back"))] }
  store _ _ := none

/-- A reference to the enum, and a type that does not resolve. -/
theorem genericName_agrees_of_shades :
    Text.mentions "integer($fclassname)" classToken = true ∧
      shades.PutsIn (.lvalueReference (.named "shade_t")) "integer($fclassname)" "Shade" ∧
      ∀ location state,
        shades.PutsInPlaceholder (.named "back") "integer($fclassname)" location state := by
  have hmentions : Text.mentions "integer($fclassname)" classToken = true := by decide +kernel
  have hshade : shades.decls.resolve (.lvalueReference (.named "shade_t")) =
      .ok (.lvalueReference (.base true (.named "Shade"))) := by
    have hinner : shades.decls.resolve (.named "shade_t") = .ok (.base true (.named "Shade")) :=
      Declarations.resolve_of_find? (by decide) fun name hroot => by cases hroot; decide
    rw [CxxType.lvalueReference, Declarations.resolve_declared, hinner]
    rfl
  have hback : shades.decls.resolve (.named "back") = .error ⟨"back"⟩ := by
    have hfirst : shades.decls.typedefs.find? "back" = some (.named "forth") := by decide
    have hsecond : shades.decls.typedefs.find? "forth" =
        some (.declared false .pointer (.named "back")) := by
      decide
    rw [Declarations.resolve, Declarations.resolveFrom_of_find? rfl hfirst List.not_mem_nil,
      Declarations.resolveFrom_of_find? rfl hsecond (by decide),
      Declarations.resolveFrom_of_mem rfl hfirst (by decide)]
  obtain ⟨-, henum, -⟩ := shades.genericName_agrees (.lvalueReference (.named "shade_t")) hmentions
  obtain ⟨-, -, -, -, hnone, -⟩ := shades.genericName_agrees (.named "back") hmentions
  refine ⟨hmentions, (henum { name := "Shade", variants := [("Dark", 0)] } ?_).2, (hnone ?_).2⟩
  · rw [Declarations.resolveOrKeep_of_resolve hshade, Declarations.categorize_bare,
      Declarations.categorize_of_resolve hshade]
    decide
  · rw [Declarations.resolveOrKeep, hback, genericName?, Declarations.categorize, hback]
    rfl

end Sources

end FortranBindings
