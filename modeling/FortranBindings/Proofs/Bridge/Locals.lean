import FortranBindings.Bridge.Held
import FortranBindings.Proofs.Declarations.Flattening

/-!
# Local variables that can be assigned

A bridge declares a local variable first and assigns it later, which C++ allows for some types only
(`CxxType.IsAssignable`). How a value is held follows from the type that its own type resolves to,
but what is held directly is declared with the type as it was spelled, and dropping the `const` of
that type does not reach a `const` inside of a typedef (`Declarations.HidesConst`,
`Declarations.exists_resolve_withoutQualifiers`). Nor are references to references collapsed, to
which a typedef can lead. These are all the types whose local variables cannot be assigned
(`Held.isAssignable_exact`).
-/

namespace FortranBindings

namespace CxxType

@[simp] theorem isReference_withConst (c : Bool) (type : CxxType) :
    (type.withConst c).isReference = type.isReference := by
  cases type <;> rfl

@[simp] theorem pointee?_withConst (c : Bool) (type : CxxType) :
    (type.withConst c).pointee? = type.pointee? := by
  cases type <;> rfl

/-- Is the type a pointer or a reference to a reference? -/
def refersToReference (type : CxxType) : Bool :=
  type.pointee?.any isReference

@[simp] theorem refersToReference_withConst (c : Bool) (type : CxxType) :
    (type.withConst c).refersToReference = type.refersToReference := by
  rw [refersToReference, pointee?_withConst, refersToReference]

/-- A variable of the type can be declared first and assigned later: the type is neither `const`
nor a reference nor a pointer to a reference. -/
structure IsAssignable (type : CxxType) : Prop where
  isConst : type.isConst = false
  isReference : type.isReference = false
  refersToReference : type.refersToReference = false

theorem isAssignable_iff {type : CxxType} : type.IsAssignable ↔
    type.isConst = false ∧ type.isReference = false ∧ type.refersToReference = false :=
  ⟨fun h => ⟨h.isConst, h.isReference, h.refersToReference⟩, fun ⟨hc, hr, hp⟩ => ⟨hc, hr, hp⟩⟩

instance : DecidablePred IsAssignable := fun _ => decidable_of_iff _ isAssignable_iff.symm

end CxxType

namespace Declarations

variable {decls : Declarations} {type resolved : CxxType}

/-- The type is the name of a typedef, with or without `const`, and what the typedef stands for is
`const` by itself. -/
def HidesConst (decls : Declarations) (type : CxxType) : Prop :=
  ∃ name underlying resolved, type.withoutQualifiers = .named name ∧
    decls.typedefs.find? name = some underlying ∧ decls.resolve underlying = .ok resolved ∧
      resolved.isConst = true

/-- A name that resolves is `const` exactly if it is a typedef of something `const`. -/
theorem isConst_iff_hidesConst {base : CxxType.Base}
    (h : decls.resolve (.base false base) = .ok resolved) :
    resolved.isConst = true ↔ decls.HidesConst (.base false base) := by
  by_cases hself : decls.IsResolved (.base false base)
  · obtain rfl : .base false base = resolved :=
      Except.ok.inj ((resolve_of_isResolved hself).symm.trans h)
    refine ⟨nofun, ?_⟩
    rintro ⟨name, underlying, -, hname, hfind, -⟩
    cases hname
    cases (hself name rfl).symm.trans hfind
  · unfold IsResolved at hself
    push Not at hself
    obtain ⟨name, hname, htypedef⟩ := hself
    obtain ⟨underlying, hfind⟩ := Option.ne_none_iff_exists'.1 htypedef
    obtain rfl : base = .named name := hname
    -- What the typedef stands for takes the place of the name, and resolves by itself as well.
    have hunderlying : decls.resolve underlying = .ok resolved := by
      rw [resolve, resolveFrom_of_find? rfl hfind List.not_mem_nil,
        CxxType.replaceBase_base] at h
      exact resolveFrom_of_subset (List.nil_subset _) h
    refine ⟨fun hconst => ⟨name, underlying, resolved, rfl, hfind, hunderlying, hconst⟩, ?_⟩
    rintro ⟨name', underlying', resolved', hname', hfind', hresolved', hconst⟩
    cases hname'
    obtain rfl := Option.some.inj (hfind.symm.trans hfind')
    obtain rfl := Except.ok.inj (hunderlying.symm.trans hresolved')
    exact hconst

/-- **A type without its own `const`** resolves like the type, and is `const` exactly if it hides a
`const` in a typedef. -/
theorem exists_resolve_withoutQualifiers (h : decls.resolve type = .ok resolved) :
    ∃ plain, decls.resolve type.withoutQualifiers = .ok plain ∧
      plain.withoutQualifiers = resolved.withoutQualifiers ∧
      (plain.isConst = true ↔ decls.HidesConst type) := by
  cases type with
  | declared c d inner =>
    rw [resolve_declared] at h
    obtain ⟨target, htarget, rfl⟩ := Except.map_eq_ok.1 h
    refine ⟨.declared false d target, ?_, rfl, nofun, ?_⟩
    · exact (resolve_declared ..).trans (Except.map_eq_ok.2 ⟨target, htarget, rfl⟩)
    · rintro ⟨name, -, -, hname, -⟩
      cases hname
  | base c b =>
    have hshape : CxxType.base c b = (CxxType.base c b).replaceBase (.base false b) := by
      simp [CxxType.replaceBase, CxxType.withConst, CxxType.isConst]
    rw [resolve, hshape, resolveFrom_replaceBase] at h
    obtain ⟨plain, hplain, rfl⟩ := Except.map_eq_ok.1 h
    refine ⟨plain, hplain, ?_, isConst_iff_hidesConst hplain⟩
    rw [CxxType.replaceBase, CxxType.withoutQualifiers, CxxType.withoutQualifiers,
      CxxType.withConst_withConst]

/-- The resolved type is a class by value. -/
def IsClassValue (decls : Declarations) (resolved : CxxType) : Prop :=
  resolved.pointee? = none ∧ (decls.categorizeBase resolved.root).isClassLike = true

end Declarations

namespace Held

variable {decls : Declarations} {type resolved : CxxType}

/-- What a value is held by directly can be assigned unless the type leads to a reference or hides a
`const`. The proposition stands for the circumstances in which a hidden `const` does no harm. -/
theorem exists_isAssignable_directly {isHarmless : Prop} (h : decls.resolve type = .ok resolved)
    (hreference : resolved.isReference = false) (hharm : ¬isHarmless) :
    ∃ held, decls.resolve (directly type).type = .ok held ∧
      (held.IsAssignable ↔
        resolved.refersToReference = false ∧ (decls.HidesConst type → isHarmless)) := by
  obtain ⟨plain, hplain, hsame, hconst⟩ := Declarations.exists_resolve_withoutQualifiers h
  refine ⟨plain, hplain, ?_⟩
  have hkept := congrArg CxxType.isReference hsame
  have hrefers := congrArg CxxType.refersToReference hsame
  simp only [CxxType.withoutQualifiers, CxxType.isReference_withConst,
    CxxType.refersToReference_withConst] at hkept hrefers
  rw [CxxType.isAssignable_iff, hkept, hrefers, ← hconst]
  simp [hreference, hharm, and_comm]

/-- A pointer to a type can be assigned unless the type is a reference. -/
theorem isAssignable_pointer {inner : CxxType} :
    (CxxType.pointer inner).IsAssignable ↔ inner.isReference = false := by
  rw [CxxType.isAssignable_iff]
  exact ⟨fun h => h.2.2, fun h => ⟨rfl, rfl, h⟩⟩

/-- What a reference is held by can be assigned unless it leads to another reference, whatever
`const` is hidden. -/
theorem exists_isAssignable_behind {isHarmless : Prop} {isConst : Bool}
    {declarator : CxxType.Declarator} {inner : CxxType}
    (h : decls.resolve type = .ok (.declared isConst declarator inner)) (hharmless : isHarmless) :
    ∃ held, decls.resolve (through inner).type = .ok held ∧
      (held.IsAssignable ↔
        (CxxType.declared isConst declarator inner).refersToReference = false ∧
          (decls.HidesConst type → isHarmless)) := by
  -- The base of what is referred to is resolved already.
  have hthrough : decls.resolve (through inner).type = .ok (.pointer inner) :=
    Declarations.resolve_of_isResolved fun name hroot =>
      Declarations.isResolved_of_resolve h name hroot
  refine ⟨_, hthrough, isAssignable_pointer.trans ⟨fun hinner => ⟨hinner, fun _ => hharmless⟩, ?_⟩⟩
  exact And.left

/-- What a class by value is held by can always be assigned. -/
theorem exists_isAssignable_through {isHarmless : Prop} {isConst : Bool} {base : CxxType.Base}
    (h : decls.resolve type = .ok (.base isConst base)) (hharmless : isHarmless) :
    ∃ held, decls.resolve (through type).type = .ok held ∧
      (held.IsAssignable ↔ (CxxType.base isConst base).refersToReference = false ∧
        (decls.HidesConst type → isHarmless)) := by
  -- Here the pointer is put around the type as it was declared.
  have hthrough : decls.resolve (through type).type = .ok (.pointer (.base isConst base)) :=
    (Declarations.resolve_declared ..).trans (Except.map_eq_ok.2 ⟨_, h, rfl⟩)
  exact ⟨_, hthrough, iff_of_true (isAssignable_pointer.2 rfl) ⟨rfl, fun _ => hharmless⟩⟩

theorem ofParameter_of_base {isConst : Bool} {base : CxxType.Base}
    (h : decls.resolve type = .ok (.base isConst base)) :
    ofParameter decls type =
      if (decls.categorizeBase base).isClassLike then through type else directly type := by
  have hcategory : decls.categorize (.base isConst base) = .ok (decls.categorizeBase base) :=
    Declarations.categorize_of_resolve h
  simp only [ofParameter, Declarations.resolveOrKeep_of_resolve h, hcategory]

theorem exists_isAssignable_ofParameter (h : decls.resolve type = .ok resolved) :
    ∃ held, decls.resolve (ofParameter decls type).type = .ok held ∧
      (held.IsAssignable ↔ resolved.refersToReference = false ∧
        (decls.HidesConst type → resolved.isReference = true ∨ decls.IsClassValue resolved)) := by
  cases resolved with
  | base c b =>
    rw [ofParameter_of_base h]
    cases hclass : (decls.categorizeBase b).isClassLike with
    | true => exact exists_isAssignable_through h (.inr ⟨rfl, hclass⟩)
    | false =>
      refine exists_isAssignable_directly h rfl ?_
      rintro (hreference | ⟨-, hvalue⟩)
      · cases hreference
      · cases hclass.symm.trans hvalue
  | declared c d inner =>
    cases d with
    | pointer =>
      rw [ofParameter, Declarations.resolveOrKeep_of_resolve h]
      refine exists_isAssignable_directly h rfl ?_
      rintro (hreference | ⟨hvalue, -⟩)
      · cases hreference
      · cases hvalue
    | lvalueReference | rvalueReference =>
      rw [ofParameter, Declarations.resolveOrKeep_of_resolve h]
      exact exists_isAssignable_behind h (.inl rfl)

theorem exists_isAssignable_ofResult (h : decls.resolve type = .ok resolved) :
    ∃ held, decls.resolve (ofResult decls type).type = .ok held ∧
      (held.IsAssignable ↔ resolved.refersToReference = false ∧
        (decls.HidesConst type → resolved.isReference = true)) := by
  rw [ofResult, Declarations.resolveOrKeep_of_resolve h]
  cases resolved with
  | base c b => exact exists_isAssignable_directly h rfl Bool.false_ne_true
  | declared c d inner =>
    cases d with
    | pointer => exact exists_isAssignable_directly h rfl Bool.false_ne_true
    | lvalueReference | rvalueReference => exact exists_isAssignable_behind h rfl

/-- **Which local variables can be assigned.** The local variable for a parameter or a result has a
type that resolves if the declared type does. It can be assigned exactly if the declared type does
not resolve to a pointer or reference to a reference, and hides no `const` in a typedef, which does
no harm only where the value is held through a pointer: behind a reference, and for a parameter that
is a class by value. -/
theorem isAssignable_exact (h : decls.resolve type = .ok resolved) :
    (∃ held, decls.resolve (ofParameter decls type).type = .ok held ∧
      (held.IsAssignable ↔ resolved.refersToReference = false ∧
        (decls.HidesConst type → resolved.isReference = true ∨ decls.IsClassValue resolved))) ∧
    ∃ held, decls.resolve (ofResult decls type).type = .ok held ∧
      (held.IsAssignable ↔ resolved.refersToReference = false ∧
        (decls.HidesConst type → resolved.isReference = true)) :=
  ⟨exists_isAssignable_ofParameter h, exists_isAssignable_ofResult h⟩

/-- A typedef of a `const` number, and a typedef of a reference to a number. -/
def qualifiedTypedefs : Declarations where
  name := "qualified"
  typedefs := Dict.ofList [("count_t", .base true (.builtin .int)),
    ("ref", .lvalueReference (.builtin .int))]

theorem resolve_count : qualifiedTypedefs.resolve (.named "count_t") =
    .ok (.base true (.builtin .int)) :=
  Declarations.resolve_of_find? (by decide) nofun

theorem hidesConst_count : qualifiedTypedefs.HidesConst (.named "count_t") :=
  (Declarations.isConst_iff_hidesConst resolve_count).1 rfl

/-- A number hidden to be `const` is not assignable as a parameter, while a reference to one is as a
result. -/
theorem isAssignable_of_qualifiedTypedefs :
    (∃ held, qualifiedTypedefs.resolve (ofParameter qualifiedTypedefs (.named "count_t")).type =
        .ok held ∧ ¬held.IsAssignable) ∧
      ∃ held, qualifiedTypedefs.resolve (ofResult qualifiedTypedefs
        (.lvalueReference (.named "count_t"))).type = .ok held ∧ held.IsAssignable := by
  obtain ⟨⟨held, hheld, hcount⟩, -⟩ := isAssignable_exact resolve_count
  have hreference : qualifiedTypedefs.resolve (.lvalueReference (.named "count_t")) =
      .ok (.lvalueReference (.base true (.builtin .int))) :=
    (Declarations.resolve_declared ..).trans (Except.map_eq_ok.2 ⟨_, resolve_count, rfl⟩)
  obtain ⟨-, result, hresult, hbehind⟩ := isAssignable_exact hreference
  refine ⟨⟨held, hheld, fun hassignable => ?_⟩, result, hresult, hbehind.2 ⟨rfl, fun _ => rfl⟩⟩
  obtain hnone | ⟨-, hnone⟩ := (hcount.1 hassignable).2 hidesConst_count
  · cases hnone
  · cases hnone

/-- Not every type that resolves has local variables that can be assigned. -/
theorem not_isAssignable : ¬∀ (decls : Declarations) (type resolved : CxxType),
    decls.resolve type = .ok resolved → ∃ parameter result,
      decls.resolve (ofParameter decls type).type = .ok parameter ∧ parameter.IsAssignable ∧
        decls.resolve (ofResult decls type).type = .ok result ∧ result.IsAssignable := by
  intro hall
  obtain ⟨-, result, -, -, hresult, hassignable⟩ := hall _ _ _ resolve_count
  obtain ⟨held, hheld, hcount⟩ := exists_isAssignable_ofResult resolve_count
  obtain rfl := Except.ok.inj (hheld.symm.trans hresult)
  cases (hcount.1 hassignable).2 hidesConst_count

end Held

end FortranBindings
