import FortranBindings.Proofs.Template.Interoperability
import FortranBindings.Proofs.Text.Filling

/-!
# Handles of classes

The object of a member is passed by the handle of its class, a pointer. If the name of the class
stands for this class and nothing else (`Declarations.NamesClass`), the built-in table declares an
argument for the handle like one for any class (`Sources.search?_handle`), and the token in this
declaration stands for the public name of the class (`Sources.fortranName?_handle`). So the object
is declared under the name of the derived type of its class (`Lookup.answer?_handle`).
-/

namespace FortranBindings

namespace TypemapTable

/-- The types of all blocks can be read. -/
theorem isSpelled_blocks : ∀ block ∈ blocks, block.type.IsSpelled := by
  have hnormal : ∀ block ∈ blocks, block.type.normal = block.type := by
    decide +kernel
  intro block hblock
  rw [← hnormal block hblock]
  exact CxxType.isSpelled_iff.2
    (CxxType.wellSpelled_normal (wellSpelled_root_blocks block hblock))

/-- The code that declares an argument of a class. -/
def objectCode : String := "class(" ++ classToken ++ "), intent(in)"

/-- All blocks for pointers to names declare their arguments in the same way. -/
theorem ftype_of_pointer : ∀ block ∈ blocks, block.type.isPointer = true →
    block.type.baseName?.isSome → block.typemap? "ftype" = some { code := objectCode } := by
  decide +kernel

end TypemapTable

namespace Declarations

/-- The name of the class can be read and stands for this class: it is no typedef, and the class is
found by it. -/
structure NamesClass (decls : Declarations) (cls : Class) : Prop where
  isSpelled : ∀ isConst, (cls.handle isConst).IsSpelled
  typedef : decls.typedefs.find? cls.name = none
  found : decls.getClass? cls.name = some cls

variable {decls : Declarations} {cls : Class}

theorem NamesClass.hasClass (h : decls.NamesClass cls) : decls.HasClass cls :=
  ⟨mem_classes_of_getClass? h.found, h.typedef⟩

/-- Where no two classes share their name each one is found by its own. -/
theorem getClass?_of_nodup (h : (decls.classes.map Class.name).Nodup) (hcls : cls ∈ decls.classes) :
    decls.getClass? cls.name = some cls := by
  rw [getClass?, List.findRev?_eq_find?_reverse]
  cases hfind : decls.classes.reverse.find? (·.name = cls.name) with
  | none =>
    have hne := List.find?_eq_none.1 hfind cls (List.mem_reverse.2 hcls)
    exact absurd (decide_eq_true rfl) hne
  | some found =>
    have hmem := List.mem_reverse.1 (List.mem_of_find?_eq_some hfind)
    have hname : found.name = cls.name := by simpa using List.find?_some hfind
    rw [List.inj_on_of_nodup_map h hmem hcls hname]

theorem categorize_handle (h : decls.NamesClass cls) (isConst : Bool) :
    decls.categorize (cls.handle isConst) = .ok (.cls cls) := by
  have hroot : (cls.handle isConst).root = .named cls.name := rfl
  rw [categorize_of_resolve (resolve_handle h.hasClass isConst), hroot]
  simp only [categorizeBase, h.found]

end Declarations

namespace Sources

variable {decls : Declarations} {cls : Class} {isConst : Bool} {form : CxxType}

theorem fortranName?_handle (h : decls.NamesClass cls) (isConst : Bool) :
    (builtin decls).fortranName? (cls.handle isConst) = some cls.publicName := by
  have hcategory : (builtin decls).decls.categorize (cls.handle isConst) = .ok (.cls cls) :=
    Declarations.categorize_handle h isConst
  rw [fortranName?, Declarations.categorize_bare_resolveOrKeep hcategory]

/-- The handle of a class is tried as itself and as the handle of the generic class. -/
theorem eq_handle_of_mem_forms (h : decls.NamesClass cls)
    (hform : form ∈ (builtin decls).forms (cls.handle isConst)) :
    form = cls.handle isConst ∨ form = Class.handle isConst { name := genericClass } := by
  have hkeep : decls.resolveOrKeep (cls.handle isConst) = cls.handle isConst :=
    Declarations.resolveOrKeep_of_resolve (Declarations.resolve_handle h.hasClass isConst)
  have hplain : (cls.handle isConst).withoutQualifiers = cls.handle isConst := rfl
  rcases List.mem_append.1 hform with hown | hgeneric
  · have hdecls : (builtin decls).decls = decls := rfl
    rw [ownForms, hdecls, hkeep, hplain] at hown
    exact .inl (by simpa using hown)
  · obtain ⟨name, hname, hform⟩ := mem_genericForms hgeneric
    have hdecls : (builtin decls).decls = decls := rfl
    rw [hdecls, hkeep] at hname hform
    rw [genericName?, hdecls, Declarations.categorize_handle h] at hname
    cases hname
    rw [hplain, or_self] at hform
    refine .inr (hform.trans ?_)
    cases isConst <;> rfl

/-- **The argument for the handle of a class** is declared like one for any class. -/
theorem search?_handle (h : decls.NamesClass cls) (isConst : Bool) :
    (builtin decls).search? ["ftype"] (cls.handle isConst) =
      some { code := TypemapTable.objectCode } := by
  have hsome : ((builtin decls).search? ["ftype"] (cls.handle isConst)).isSome :=
    isSome_search?_of_supports (Declarations.supports_handle h.hasClass isConst)
      List.mem_cons_self (by decide)
  obtain ⟨typemap, hsearch⟩ := Option.isSome_iff_exists.1 hsome
  rw [search?_singleton] at hsearch ⊢
  obtain ⟨form, hform, hblock⟩ := List.exists_of_findSome?_eq_some hsearch
  obtain ⟨block, hblock, hcode⟩ := Option.bind_eq_some_iff.1 hblock
  obtain ⟨hmem, hsignature⟩ := TypemapTable.mem_of_blockOf? hblock
  have hgeneric : (Class.handle isConst { name := genericClass }).IsSpelled := by
    have hname : (CxxType.Base.named genericClass).WellSpelled := by decide
    exact CxxType.isSpelled_iff.2 ⟨nofun, hname⟩
  -- The block is for a pointer to a name, as the handle is.
  obtain ⟨owner, howner, htype⟩ : ∃ owner : Class, (owner.handle isConst).IsSpelled ∧
      form = owner.handle isConst := by
    rcases eq_handle_of_mem_forms h hform with rfl | rfl
    · exact ⟨cls, h.isSpelled isConst, rfl⟩
    · exact ⟨_, hgeneric, rfl⟩
  have heq : block.type = owner.handle isConst :=
    (TypemapTable.isSpelled_blocks block hmem).eq_of_signature_eq howner (htype ▸ hsignature)
  have hftype := TypemapTable.ftype_of_pointer block hmem (heq ▸ rfl) (heq ▸ rfl)
  rw [hsearch, ← hcode, hftype]

/-- The built-in table never says how many arguments of the caller are used up. -/
theorem numInputs_of_search? {operations : List String} {type : CxxType} {typemap : Typemap}
    (h : (builtin decls).search? operations type = some typemap) : typemap.numInputs = none := by
  obtain ⟨operation, -, hoperation⟩ := List.exists_of_findSome?_eq_some h
  obtain ⟨signature, -, hstore⟩ := List.exists_of_findSome?_eq_some hoperation
  rw [store_builtin] at hstore
  obtain ⟨block, -, hcode⟩ := Option.bind_eq_some_iff.1 hstore
  obtain ⟨code, -, rfl⟩ := Option.map_eq_some_iff.1 hcode
  rfl

end Sources

namespace Lookup

variable {sources : Sources} {decls : Declarations} {cls : Class} {request : Request}

theorem numInputs_named (sources : Sources) (type : CxxType) (typemap : Typemap) :
    (named sources type typemap).numInputs = typemap.numInputs := by
  unfold named
  split <;> rfl

/-- Without an attached typemap the answer is what the store has. -/
theorem answer?_of_search? {typemap : Typemap} (h : request.attached? = none)
    (hsearch : sources.search? request.operations request.type = some typemap) :
    answer? sources request = some (named sources request.type typemap) := by
  unfold answer?
  rw [h, hsearch]

/-- What is found in the built-in table is not said to take no argument. -/
theorem numInputs_answer? (h : request.attached? = none) :
    ∀ typemap ∈ answer? (.builtin decls) request, typemap.numInputs = none := by
  intro typemap htypemap
  cases hsearch : (Sources.builtin decls).search? request.operations request.type with
  | some found =>
    rw [answer?_of_search? h hsearch] at htypemap
    cases htypemap
    rw [numInputs_named, Sources.numInputs_of_search? hsearch]
  | none =>
    unfold answer? at htypemap
    rw [h, hsearch] at htypemap
    cases hneed : request.need with
    | optional =>
      rw [hneed] at htypemap
      cases htypemap
    | required =>
      rw [hneed] at htypemap
      cases htypemap
      rfl

/-- The declaration of an object, with the token replaced. -/
theorem named_handle (h : decls.NamesClass cls) (isConst : Bool) :
    named (.builtin decls) (cls.handle isConst) { code := TypemapTable.objectCode } =
      { code := "class(" ++ cls.publicName ++ "), intent(in)" } := by
  have hmentions : Text.mentions TypemapTable.objectCode classToken = true := by decide
  have hname : classNameOf (.builtin decls) (cls.handle isConst) = cls.publicName := by
    rw [classNameOf, Sources.fortranName?_handle h]
    rfl
  have hcode : Text.substitute TypemapTable.objectCode [(classToken, cls.publicName)] =
      "class(" ++ cls.publicName ++ "), intent(in)" :=
    Text.substitute_token (by decide) rfl (by decide) _
  rw [named, if_pos hmentions, hname, hcode]

/-- **An object is declared under the name of its derived type.** -/
theorem answer?_handle (h : decls.NamesClass cls) (isConst : Bool) {attached : Attachments}
    (hattached : attached.find? "ftype" = none) (location : Location) :
    answer? (.builtin decls)
        { operation := "ftype", type := cls.handle isConst, attached, need := .required,
          location } =
      some { code := "class(" ++ cls.publicName ++ "), intent(in)" } := by
  have hrequest : Request.attached?
      { operation := "ftype", type := cls.handle isConst, attached, need := .required,
        location } = none := by
    rw [Request.attached?, Request.operations]
    simp [hattached]
  rw [answer?_of_search? hrequest (Sources.search?_handle h isConst), named_handle h]

end Lookup

end FortranBindings
