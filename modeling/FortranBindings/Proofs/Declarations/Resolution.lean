import FortranBindings.Declarations.Resolution

/-!
# What typedefs resolve to

The base of a resolved type is no typedef (`Declarations.isResolved_of_resolve`), and a type whose
base is no typedef resolves to itself (`Declarations.resolve_of_isResolved`). So what a type is
built on is told by the base of the type that it resolves to (`Declarations.categorize_of_resolve`).
A property of bases that the typedefs have is handed on from a type to what it resolves to
(`Declarations.root_of_resolveFrom`).
-/

namespace FortranBindings.Declarations

variable {decls : Declarations} {type resolved : CxxType}

/-- The base of the type is no typedef. -/
def IsResolved (decls : Declarations) (type : CxxType) : Prop :=
  ∀ name, type.root = .named name → decls.typedefs.find? name = none

theorem baseName?_eq_some {name : String} :
    type.baseName? = some name ↔ type.root = .named name := by
  unfold CxxType.baseName?
  cases type.root <;> simp

theorem isResolved_of_resolveFrom {seen : List String}
    (h : decls.resolveFrom seen type = .ok resolved) : decls.IsResolved resolved := by
  fun_induction resolveFrom decls seen type with
  | case1 seen type hname =>
    cases h
    exact fun name hroot => nomatch hname.symm.trans (baseName?_eq_some.2 hroot)
  | case2 seen type name hname hfind =>
    cases h
    intro other hroot
    obtain rfl := Option.some.inj (hname.symm.trans (baseName?_eq_some.2 hroot))
    exact hfind
  | case3 => cases h
  | case4 seen type name hname underlying hfind hseen ih => exact ih h

theorem isResolved_of_resolve (h : decls.resolve type = .ok resolved) : decls.IsResolved resolved :=
  isResolved_of_resolveFrom h

theorem resolveFrom_of_isResolved (h : decls.IsResolved type) (seen : List String) :
    decls.resolveFrom seen type = .ok type := by
  rw [resolveFrom]
  split
  · rfl
  · next name hname =>
    split
    · rfl
    · next underlying hfind =>
      rw [h name (baseName?_eq_some.1 hname)] at hfind
      cases hfind

theorem resolve_of_isResolved (h : decls.IsResolved type) : decls.resolve type = .ok type :=
  resolveFrom_of_isResolved h []

/-- Where no typedef leads to another one, every type resolves. -/
theorem exists_resolve_eq_ok (h : ∀ name underlying, decls.typedefs.find? name = some underlying →
    decls.IsResolved underlying) (type : CxxType) :
    ∃ resolved, decls.resolve type = .ok resolved := by
  cases hname : type.baseName? with
  | none =>
    refine ⟨type, resolve_of_isResolved fun name hroot => ?_⟩
    rw [baseName?_eq_some.2 hroot] at hname
    cases hname
  | some name =>
    cases hfind : decls.typedefs.find? name with
    | none =>
      refine ⟨type, resolve_of_isResolved fun other hroot => ?_⟩
      obtain rfl := Option.some.inj (hname.symm.trans (baseName?_eq_some.2 hroot))
      exact hfind
    | some underlying =>
      refine ⟨type.replaceBase underlying, ?_⟩
      have hreplaced : decls.IsResolved (type.replaceBase underlying) := by
        intro other hroot
        rw [CxxType.root_replaceBase] at hroot
        exact h name underlying hfind other hroot
      rw [resolve, resolveFrom]
      simp only [hname]
      split
      · next hnone => cases hfind.symm.trans hnone
      · next found hfound =>
        obtain rfl := Option.some.inj (hfind.symm.trans hfound)
        rw [dif_neg List.not_mem_nil]
        exact resolveFrom_of_isResolved hreplaced [name]

/-- What a type is built on is the base of the type that it resolves to. -/
theorem categorize_of_resolve (h : decls.resolve type = .ok resolved) :
    decls.categorize resolved = .ok (decls.categorizeBase resolved.root) := by
  rw [categorize, resolve_of_isResolved (isResolved_of_resolve h)]
  rfl

theorem resolveOrKeep_of_resolve (h : decls.resolve type = .ok resolved) :
    decls.resolveOrKeep type = resolved := by
  rw [resolveOrKeep, h]

/-- Only a type that resolves is built on something. -/
theorem eq_categorizeBase_of_categorize {category : TypeCategory}
    (h : decls.categorize (decls.resolveOrKeep type) = .ok category) :
    decls.resolve type = .ok (decls.resolveOrKeep type) ∧
      category = decls.categorizeBase (decls.resolveOrKeep type).root := by
  cases hresolve : decls.resolve type with
  | ok resolved =>
    rw [resolveOrKeep_of_resolve hresolve] at h ⊢
    exact ⟨rfl, Except.ok.inj (h.symm.trans (categorize_of_resolve hresolve))⟩
  | error cycle =>
    rw [resolveOrKeep, hresolve] at h
    simp only [categorize, hresolve] at h
    cases h

/-- What a type is built on can be told from the bare base of the type that it resolves to. -/
theorem categorize_bare_resolveOrKeep {category : TypeCategory}
    (h : decls.categorize type = .ok category) :
    decls.categorize (decls.resolveOrKeep type).bare = .ok category := by
  unfold categorize at h
  cases hresolve : decls.resolve type with
  | error cycle =>
    rw [hresolve] at h
    cases h
  | ok resolved =>
    rw [hresolve] at h
    obtain rfl : decls.categorizeBase resolved.root = category := Except.ok.inj h
    have hresolved : decls.IsResolved resolved := isResolved_of_resolve hresolve
    have hbare : decls.IsResolved resolved.bare := fun name hroot => hresolved name hroot
    rw [resolveOrKeep_of_resolve hresolve, categorize, resolve_of_isResolved hbare]
    rfl

theorem mem_classes_of_getClass? {name : String} {cls : Class}
    (h : decls.getClass? name = some cls) : cls ∈ decls.classes := by
  rw [getClass?, List.findRev?_eq_find?_reverse] at h
  exact List.mem_reverse.1 (List.mem_of_find?_eq_some h)

theorem mem_enumerations_of_getEnumeration? {name : String} {number : Nat} {e : Enumeration}
    (h : decls.getEnumeration? name = some (number, e)) : e ∈ decls.enumerations := by
  rw [getEnumeration?, List.findRev?_eq_find?_reverse] at h
  obtain ⟨entry, hentry, heq⟩ := Option.map_eq_some_iff.1 h
  cases heq
  have hmem := List.mem_reverse.1 (List.mem_of_find?_eq_some hentry)
  obtain ⟨⟨e, number⟩, hpair, rfl⟩ := List.mem_map.1 hmem
  exact List.fst_mem_of_mem_zipIdx hpair

/-- The class or enum that a base is built on is a declared one. -/
theorem mem_of_categorizeBase (base : CxxType.Base) :
    (∀ cls, decls.categorizeBase base = .cls cls → cls ∈ decls.classes) ∧
      ∀ e, decls.categorizeBase base = .enumeration e → e ∈ decls.enumerations := by
  cases base with
  | builtin kind => cases kind <;> exact ⟨nofun, nofun⟩
  | named name =>
    unfold categorizeBase
    dsimp only
    cases hclass : decls.getClass? name with
    | some cls => exact ⟨fun _ heq => by cases heq; exact mem_classes_of_getClass? hclass, nofun⟩
    | none =>
      cases henum : decls.getEnumeration? name with
      | some found =>
        exact ⟨nofun, fun _ heq => by cases heq; exact mem_enumerations_of_getEnumeration? henum⟩
      | none => exact ⟨nofun, nofun⟩
  | enumeration name =>
    unfold categorizeBase
    dsimp only
    cases henum : decls.getEnumeration? name with
    | some found =>
      exact ⟨nofun, fun _ heq => by cases heq; exact mem_enumerations_of_getEnumeration? henum⟩
    | none => exact ⟨nofun, nofun⟩

/-- A type is built on declared classes and enums only. -/
theorem mem_of_categorize {category : TypeCategory} (h : decls.categorize type = .ok category) :
    (∀ cls, category = .cls cls → cls ∈ decls.classes) ∧
      ∀ e, category = .enumeration e → e ∈ decls.enumerations := by
  unfold categorize at h
  cases hresolve : decls.resolve type with
  | error cycle =>
    rw [hresolve] at h
    cases h
  | ok resolved =>
    rw [hresolve] at h
    obtain rfl : decls.categorizeBase resolved.root = category := Except.ok.inj h
    exact mem_of_categorizeBase resolved.root

/-- What the bases of all typedefs are, the base of a resolved type is, if that of the type is. -/
theorem root_of_resolveFrom {holds : CxxType.Base → Prop}
    (htypedefs : ∀ name underlying, decls.typedefs.find? name = some underlying →
      holds underlying.root) {seen : List String}
    (h : decls.resolveFrom seen type = .ok resolved) (htype : holds type.root) :
    holds resolved.root := by
  fun_induction resolveFrom decls seen type with
  | case1 => cases h; exact htype
  | case2 => cases h; exact htype
  | case3 => cases h
  | case4 seen type name hname underlying hfind hseen ih =>
    refine ih h ?_
    rw [CxxType.root_replaceBase]
    exact htypedefs name underlying hfind

theorem root_resolveOrKeep {holds : CxxType.Base → Prop}
    (htypedefs : ∀ name underlying, decls.typedefs.find? name = some underlying →
      holds underlying.root) (htype : holds type.root) : holds (decls.resolveOrKeep type).root := by
  unfold resolveOrKeep
  split
  · next resolved hresolve => exact root_of_resolveFrom htypedefs hresolve htype
  · exact htype

/-- A type that is not built on a name stays as it is. -/
theorem resolveOrKeep_of_root (h : ∀ name, type.root ≠ .named name) :
    decls.resolveOrKeep type = type :=
  resolveOrKeep_of_resolve (resolve_of_isResolved fun name hname => absurd hname (h name))

/-- Resolving a typedef takes no declarators away. -/
theorem exists_base_of_resolveFrom {seen : List String} {isConst : Bool} {base : CxxType.Base}
    (h : decls.resolveFrom seen type = .ok (.base isConst base)) :
    ∃ isConst' base', type = .base isConst' base' := by
  fun_induction resolveFrom decls seen type with
  | case1 => cases h; exact ⟨_, _, rfl⟩
  | case2 => cases h; exact ⟨_, _, rfl⟩
  | case3 => cases h
  | case4 seen type name hname underlying hfind hseen ih =>
    obtain ⟨isConst', base', hreplaced⟩ := ih h
    cases type with
    | base c b => exact ⟨c, b, rfl⟩
    | declared c d inner => cases hreplaced

theorem exists_base_of_resolveOrKeep {isConst : Bool} {base : CxxType.Base}
    (h : decls.resolveOrKeep type = .base isConst base) :
    ∃ isConst' base', type = .base isConst' base' := by
  unfold resolveOrKeep at h
  split at h
  · next resolved hresolve =>
    subst h
    exact exists_base_of_resolveFrom hresolve
  · exact ⟨_, _, h⟩

end FortranBindings.Declarations
