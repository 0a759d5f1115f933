import FortranBindings.Proofs.Declarations.Resolution
import FortranBindings.Proofs.TypemapTable.Library
import FortranBindings.Template.Sources

/-!
# What the built-in table covers

The types that the built-in table is made for are those that resolve to a value, or to a pointer or
reference to a value, as far as the base admits it (`Declarations.Supports`). Under one of its
signatures the table has a block for such a type, and this block has code for all operations on
values (`Sources.isSome_search?_of_supports`).
-/

namespace FortranBindings

/-- The built-in table as what templates are looked up in. -/
def Sources.builtin (decls : Declarations) : Sources := ⟨decls, TypemapTable.fortran.lookup⟩

/-- The forms in which the built-in table has a base of the category. -/
def TypeCategory.Admits : TypeCategory → Form → Prop
  | void, form => ∃ isConst, form = .pointer isConst
  | builtin _, _ | cls _, _ | unknown _, _ => True
  | enumeration _, form | unknownEnumeration _, form => form = .value ∨ form = .reference true

namespace Declarations

/-- The type is one that the built-in table is made for: once its typedefs are resolved and its
outermost `const` is dropped, it is a base in one of the forms for it. -/
def Supports (decls : Declarations) (type : CxxType) : Prop :=
  ∃ resolved form, decls.resolve type = .ok resolved ∧
    resolved.withoutQualifiers = form.type resolved.root ∧
    (decls.categorizeBase resolved.root).Admits form

/-- The type resolves to `void`. -/
def ResolvesToVoid (decls : Declarations) (type : CxxType) : Prop :=
  ∃ resolved, decls.resolve type = .ok resolved ∧ resolved.isVoid = true

/-- The type is one that the built-in table is made for as a result. -/
def SupportsResult (decls : Declarations) (type : CxxType) : Prop :=
  decls.Supports type ∨ decls.ResolvesToVoid type

/-- The class is declared, and its name is not the one of a typedef. -/
def HasClass (decls : Declarations) (cls : Class) : Prop :=
  cls ∈ decls.classes ∧ decls.typedefs.find? cls.name = none

/-- The name stands for a class: for a declared one or for one that is not known. -/
def StandsForClass (decls : Declarations) (name : String) : Prop :=
  ∃ resolved, decls.resolve (.named name) = .ok resolved ∧
    resolved.withoutQualifiers = Form.value.type resolved.root ∧
    (decls.categorizeBase resolved.root).isClassLike = true

end Declarations

namespace Sources

variable {sources : Sources} {type resolved : CxxType} {form : Form}

theorem isSome_search? {operations : List String} {operation signature : String}
    (hoperation : operation ∈ operations) (hsignature : signature ∈ sources.signatures type)
    (hstore : (sources.store operation signature).isSome) :
    (sources.search? operations type).isSome := by
  rw [search?, List.findSome?_isSome_iff]
  refine ⟨operation, hoperation, ?_⟩
  rw [List.findSome?_isSome_iff]
  exact ⟨signature, hsignature, hstore⟩

/-- A type is tried under the type that it resolves to, without its outermost `const`. -/
theorem signature_resolved_mem (h : sources.decls.resolve type = .ok resolved) :
    resolved.withoutQualifiers.signature ∈ sources.signatures type := by
  rw [signatures, Declarations.resolveOrKeep_of_resolve h]
  simp

/-- A type is tried in its generic form. -/
theorem signature_generic_mem (h : sources.decls.resolve type = .ok resolved)
    (hform : resolved.withoutQualifiers = form.type resolved.root) {name : String}
    (hname : sources.genericName? resolved = some name) :
    (form.type (.named name)).signature ∈ sources.signatures type := by
  rw [signatures, Declarations.resolveOrKeep_of_resolve h]
  simp only [hname, hform]
  simp [CxxType.named]

theorem genericName?_of_resolve (h : sources.decls.resolve type = .ok resolved) :
    sources.genericName? resolved =
      match sources.decls.categorizeBase resolved.root with
      | .enumeration _ | .unknownEnumeration _ => some genericEnumeration
      | .cls _ | .unknown _ => some genericClass
      | _ => none := by
  rw [genericName?, Declarations.categorize_of_resolve h]
  cases sources.decls.categorizeBase resolved.root <;> rfl

end Sources

namespace Declarations

variable {decls : Declarations} {type : CxxType}

theorem categorizeBase_eq_void {base : CxxType.Base} (h : decls.categorizeBase base = .void) :
    base = .builtin .void := by
  unfold categorizeBase at h
  split at h <;> first | rfl | cases h | (split at h <;> cases h)

theorem categorizeBase_eq_builtin {base : CxxType.Base} {kind : Builtin}
    (h : decls.categorizeBase base = .builtin kind) : base = .builtin kind ∧ kind ≠ .void := by
  unfold categorizeBase at h
  split at h
  · cases h
  · next hkind =>
    cases h
    exact ⟨rfl, fun hvoid => hkind (hvoid ▸ rfl)⟩
  · split at h <;> cases h
  · split at h <;> cases h

/-- The built-in table has a block for every type that it is made for. -/
theorem exists_block_of_supports (h : decls.Supports type) :
    ∃ block ∈ TypemapTable.blocks, block.type ≠ .void ∧
      block.type.signature ∈ (Sources.builtin decls).signatures type := by
  obtain ⟨resolved, form, hresolve, hform, hadmits⟩ := h
  have hgeneric : (Sources.builtin decls).genericName? resolved = _ :=
    Sources.genericName?_of_resolve hresolve
  -- The block is one of the base itself or of the generic name for it.
  have hself (hblock : TypemapTable.HasBlock resolved.root form) :
      ∃ block ∈ TypemapTable.blocks, block.type ≠ .void ∧
        block.type.signature ∈ (Sources.builtin decls).signatures type := by
    obtain ⟨block, hmem, htype, hvoid⟩ := hblock
    exact ⟨block, hmem, hvoid, htype ▸ hform ▸ Sources.signature_resolved_mem hresolve⟩
  have hname {name : String} (hname : (Sources.builtin decls).genericName? resolved = some name)
      (hblock : TypemapTable.HasBlock (.named name) form) :
      ∃ block ∈ TypemapTable.blocks, block.type ≠ .void ∧
        block.type.signature ∈ (Sources.builtin decls).signatures type := by
    obtain ⟨block, hmem, htype, hvoid⟩ := hblock
    exact ⟨block, hmem, hvoid, htype ▸ Sources.signature_generic_mem hresolve hform hname⟩
  have hdecls : (Sources.builtin decls).decls = decls := rfl
  rw [hdecls] at hgeneric
  cases hcategory : decls.categorizeBase resolved.root with
  | void =>
    rw [hcategory] at hadmits
    obtain ⟨isConst, rfl⟩ := hadmits
    exact hself (categorizeBase_eq_void hcategory ▸ TypemapTable.hasBlock_voidPointer isConst)
  | builtin kind =>
    obtain ⟨hroot, hkind⟩ := categorizeBase_eq_builtin hcategory
    exact hself (hroot ▸ TypemapTable.hasBlock_scalar hkind form)
  | cls | unknown =>
    rw [hcategory] at hgeneric
    exact hname hgeneric (TypemapTable.hasBlock_class form)
  | enumeration | unknownEnumeration =>
    rw [hcategory] at hgeneric hadmits
    exact hname hgeneric (TypemapTable.hasBlock_enumeration hadmits)

end Declarations

namespace Sources

variable {decls : Declarations} {type : CxxType} {operations : List String} {operation : String}

/-- The built-in table answers from its blocks. -/
theorem builtin_eq (decls : Declarations) : builtin decls = ⟨decls, fun operation signature =>
    (TypemapTable.blockOf? signature).bind (·.typemap? operation)⟩ := by
  have hstore : TypemapTable.fortran.lookup = fun operation signature =>
      (TypemapTable.blockOf? signature).bind (·.typemap? operation) :=
    funext fun operation => funext fun signature => TypemapTable.lookup_fortran operation signature
  rw [builtin, hstore]

theorem store_builtin (operation signature : String) :
    (builtin decls).store operation signature =
      (TypemapTable.blockOf? signature).bind (·.typemap? operation) := by
  rw [builtin_eq]

theorem isSome_search?_of_block {block : TypemapTable.Block} (hblock : block ∈ TypemapTable.blocks)
    (hsignature : block.type.signature ∈ (Sources.builtin decls).signatures type)
    (hoperation : operation ∈ operations) (htypemap : (block.typemap? operation).isSome) :
    ((Sources.builtin decls).search? operations type).isSome := by
  refine isSome_search? hoperation hsignature ?_
  rw [store_builtin, TypemapTable.blockOf?_signature hblock]
  exact htypemap

/-- **What the built-in table is made for is found in it.** -/
theorem isSome_search?_of_supports (h : decls.Supports type) (hoperation : operation ∈ operations)
    (hcommon : operation ∈ TypemapTable.commonOperations) :
    ((Sources.builtin decls).search? operations type).isSome := by
  obtain ⟨block, hblock, hvoid, hsignature⟩ := Declarations.exists_block_of_supports h
  exact isSome_search?_of_block hblock hsignature hoperation
    (TypemapTable.isSome_common block hblock hvoid operation hcommon)

/-- **What the built-in table is made for as a result is found in it.** -/
theorem isSome_search?_of_supportsResult (h : decls.SupportsResult type)
    (hoperation : operation ∈ operations) (hresult : operation ∈ TypemapTable.resultOperations) :
    ((Sources.builtin decls).search? operations type).isSome := by
  rcases h with h | ⟨resolved, hresolve, hvoid⟩
  · exact isSome_search?_of_supports h hoperation (TypemapTable.resultOperations_subset hresult)
  · have hplain : resolved.withoutQualifiers = .void := by
      cases resolved with
      | base c b => rw [of_decide_eq_true hvoid]; rfl
      | declared => cases hvoid
    obtain ⟨block, hmem, htype, hcodes⟩ := TypemapTable.exists_voidBlock
    refine isSome_search?_of_block hmem ?_ hoperation (hcodes operation hresult)
    rw [htype, ← hplain]
    exact signature_resolved_mem hresolve

/-- The code for a form of classes is found for what stands for a class in that form. -/
theorem isSome_search?_of_classLike {resolved : CxxType} {form : Form}
    (hresolve : decls.resolve type = .ok resolved)
    (hform : resolved.withoutQualifiers = form.type resolved.root)
    (hclass : (decls.categorizeBase resolved.root).isClassLike = true)
    (hoperation : operation ∈ operations)
    (hcode : ∃ block ∈ TypemapTable.classBlocks, block.type = form.type (.named genericClass) ∧
      (block.typemap? operation).isSome) :
    ((Sources.builtin decls).search? operations type).isSome := by
  obtain ⟨block, hmem, htype, hcode⟩ := hcode
  have hmem : block ∈ TypemapTable.blocks :=
    List.mem_append_left _ (List.mem_append_right _ hmem)
  have hname : (Sources.builtin decls).genericName? resolved = some genericClass := by
    have hgeneric : (Sources.builtin decls).genericName? resolved = _ :=
      genericName?_of_resolve hresolve
    have hdecls : (Sources.builtin decls).decls = decls := rfl
    rw [hgeneric, hdecls]
    revert hclass
    cases decls.categorizeBase resolved.root <;> first | exact fun _ => rfl | exact nofun
  exact isSome_search?_of_block hmem (htype ▸ signature_generic_mem hresolve hform hname)
    hoperation hcode

/-- There is code for the data of what stands for a class. -/
theorem isSome_search?_data {name : String} (h : decls.StandsForClass name) :
    ((Sources.builtin decls).search? ["fdata"] (.named name)).isSome := by
  obtain ⟨resolved, hresolve, hform, hclass⟩ := h
  exact isSome_search?_of_classLike hresolve hform hclass List.mem_cons_self (by decide +kernel)

end Sources

namespace Declarations

variable {decls : Declarations} {cls : Class}

/-- A class stands for itself or for another class of its name. -/
theorem isClassLike_of_mem (h : cls ∈ decls.classes) :
    (decls.categorizeBase (.named cls.name)).isClassLike = true := by
  have hfound : (decls.getClass? cls.name).isSome := by
    rw [getClass?, List.findRev?_eq_find?_reverse, List.find?_isSome]
    exact ⟨cls, List.mem_reverse.2 h, decide_eq_true rfl⟩
  obtain ⟨found, hfound⟩ := Option.isSome_iff_exists.1 hfound
  simp only [categorizeBase, hfound]
  rfl

theorem resolve_handle (h : decls.HasClass cls) (isConst : Bool) :
    decls.resolve (cls.handle isConst) = .ok (cls.handle isConst) :=
  resolve_of_isResolved fun name hname => by
    cases hname
    exact h.2

theorem standsForClass_of_hasClass (h : decls.HasClass cls) : decls.StandsForClass cls.name := by
  refine ⟨.named cls.name, resolve_of_isResolved fun name hname => ?_, rfl,
    isClassLike_of_mem h.1⟩
  cases hname
  exact h.2

/-- A name that is neither a typedef nor an enum stands for a class, declared or not. -/
theorem standsForClass_of_undeclared {name : String} (htypedef : decls.typedefs.find? name = none)
    (henum : decls.getEnumeration? name = none) : decls.StandsForClass name := by
  refine ⟨.named name, resolve_of_isResolved fun other hother => ?_, rfl, ?_⟩
  · cases hother
    exact htypedef
  · change (decls.categorizeBase (.named name)).isClassLike = true
    simp only [categorizeBase, henum]
    cases decls.getClass? name <;> rfl

theorem supports_handle (h : decls.HasClass cls) (isConst : Bool) :
    decls.Supports (cls.handle isConst) := by
  refine ⟨_, .pointer isConst, resolve_handle h isConst, rfl, ?_⟩
  have hclass : (decls.categorizeBase (cls.handle isConst).root).isClassLike = true :=
    isClassLike_of_mem h.1
  revert hclass
  cases decls.categorizeBase (cls.handle isConst).root <;>
    first | exact fun _ => trivial | exact nofun

end Declarations

/-- There is code that creates and releases the object that a handle of a class points to. -/
theorem Sources.isSome_search?_handle {decls : Declarations} {cls : Class}
    (h : decls.HasClass cls) {operation : String}
    (hoperation : operation ∈ ["fcreate", "frelease"]) :
    ((Sources.builtin decls).search? [operation] (cls.handle false)).isSome := by
  have hform : (cls.handle false).withoutQualifiers =
      (Form.pointer false).type (cls.handle false).root := rfl
  refine isSome_search?_of_classLike (Declarations.resolve_handle h false) hform
    (Declarations.isClassLike_of_mem h.1) List.mem_cons_self ?_
  revert operation
  decide +kernel

end FortranBindings
