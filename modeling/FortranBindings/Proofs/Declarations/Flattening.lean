import Mathlib.Logic.Relation
import FortranBindings.Proofs.Declarations.TypedefChains
import FortranBindings.Proofs.Except

/-!
# Resolving in parts

Replacing the base of a type is associative, so that a type whose base is replaced resolves like
what replaces it (`Declarations.resolveFrom_replaceBase`). A type under a declarator is such a type.
If no typedef leads back to itself, every type resolves
(`Declarations.exists_resolve_of_isAcyclic`), and the typedefs may be resolved themselves before
they are used (`Declarations.resolve_flattened`).
-/

namespace FortranBindings

/-- A dictionary with its values changed. -/
def Dict.mapValues {α β : Type} (f : α → β) (dict : Dict α) : Dict β where
  entries := dict.entries.map fun pair => (pair.1, f pair.2)
  ordered := List.pairwise_map.2 dict.ordered

theorem Dict.find?_mapValues {α β : Type} (f : α → β) (dict : Dict α) (name : String) :
    (dict.mapValues f).find? name = (dict.find? name).map f := by
  show (dict.entries.map fun pair => (pair.1, f pair.2)).lookup name =
    (dict.entries.lookup name).map f
  induction dict.entries with
  | nil => rfl
  | cons pair pairs ih =>
    rw [List.map_cons, Dict.lookup_cons_eq_ite, Dict.lookup_cons_eq_ite, ih]
    split <;> rfl

namespace CxxType

/-- A base without qualifiers is replaced by the type itself. -/
theorem replaceBase_base (base : Base) (new : CxxType) :
    (CxxType.base false base).replaceBase new = new := by
  cases new <;> rfl

/-- A type is its bare base in its own shape. -/
theorem replaceBase_bare (type : CxxType) : type.replaceBase type.bare = type := by
  induction type with
  | base isConst base => exact congrArg (CxxType.base · base) (Bool.or_false isConst)
  | declared isConst declarator inner ih => exact congrArg (declared isConst declarator) ih

/-- A type under a declarator is one whose base is replaced. -/
theorem declared_eq_replaceBase (isConst : Bool) (declarator : Declarator) (inner : CxxType) :
    declared isConst declarator inner = (declared isConst declarator void).replaceBase inner := by
  rw [replaceBase, void, builtin, replaceBase_base]

end CxxType

namespace Declarations

variable {decls : Declarations} {type underlying : CxxType} {name : String}

/-! ## Shapes -/

theorem resolveFrom_of_find? {seen : List String} (hname : type.root = .named name)
    (hfind : decls.typedefs.find? name = some underlying) (hseen : name ∉ seen) :
    decls.resolveFrom seen type =
      decls.resolveFrom (name :: seen) (type.replaceBase underlying) := by
  rw [resolveFrom]
  simp only [baseName?_eq_some.2 hname]
  split
  · next hnone => cases hfind.symm.trans hnone
  · next found hfound =>
    obtain rfl := Option.some.inj (hfind.symm.trans hfound)
    rw [dif_neg hseen]

theorem resolveFrom_of_mem {seen : List String} (hname : type.root = .named name)
    (hfind : decls.typedefs.find? name = some underlying) (hseen : name ∈ seen) :
    decls.resolveFrom seen type = .error ⟨name⟩ := by
  rw [resolveFrom]
  simp only [baseName?_eq_some.2 hname]
  split
  · next hnone => cases hfind.symm.trans hnone
  · rw [dif_pos hseen]

/-- A typedef of something that is resolved resolves to it. -/
theorem resolve_of_find? (hfind : decls.typedefs.find? name = some underlying)
    (h : decls.IsResolved underlying) : decls.resolve (.named name) = .ok underlying := by
  rw [resolve, CxxType.named, resolveFrom_of_find? rfl hfind List.not_mem_nil,
    CxxType.replaceBase_base]
  exact resolveFrom_of_isResolved h _

/-- **A type whose base is replaced resolves like what replaces it**, in its own shape. -/
theorem resolveFrom_replaceBase (decls : Declarations) (shape type : CxxType)
    (seen : List String) :
    decls.resolveFrom seen (shape.replaceBase type) =
      (decls.resolveFrom seen type).map shape.replaceBase := by
  obtain ⟨count, -, hresolves⟩ := decls.resolveFrom_resolves seen type
  generalize decls.resolveFrom seen type = result at hresolves
  -- The replacements are the same ones; only the shape around the base differs.
  induction hresolves with
  | resolved h =>
    refine resolveFrom_of_isResolved (fun name hroot => h name ?_) _
    rwa [CxxType.root_replaceBase] at hroot
  | repeated hname hfind hseen =>
    exact resolveFrom_of_mem ((CxxType.root_replaceBase _ _).trans hname) hfind hseen
  | replaced hname hfind hseen _ ih =>
    rw [resolveFrom_of_find? ((CxxType.root_replaceBase _ _).trans hname) hfind hseen,
      CxxType.replaceBase_replaceBase, ih]

/-- Resolving goes on below a declarator. -/
theorem resolve_declared (decls : Declarations) (isConst : Bool)
    (declarator : CxxType.Declarator) (inner : CxxType) :
    decls.resolve (.declared isConst declarator inner) =
      (decls.resolve inner).map (.declared isConst declarator) := by
  have hshape : CxxType.declared isConst declarator =
      (CxxType.declared isConst declarator .void).replaceBase :=
    funext (CxxType.declared_eq_replaceBase isConst declarator)
  rw [hshape]
  exact decls.resolveFrom_replaceBase _ inner []

/-- Resolving is done at the bare base. -/
theorem resolve_eq_map_bare (decls : Declarations) (type : CxxType) :
    decls.resolve type = (decls.resolve type.bare).map type.replaceBase := by
  have hshape := decls.resolveFrom_replaceBase type type.bare []
  rwa [CxxType.replaceBase_bare] at hshape

/-- What a type is built on does not depend on its shape, also if it does not resolve. -/
theorem categorize_bare (decls : Declarations) (type : CxxType) :
    decls.categorize type.bare = decls.categorize type := by
  rw [categorize, categorize, decls.resolve_eq_map_bare type]
  cases decls.resolve type.bare with
  | ok resolved =>
    exact congrArg (Except.ok ∘ decls.categorizeBase) (CxxType.root_replaceBase _ _).symm
  | error error => rfl

/-! ## Acyclic typedefs -/

/-- The name is a typedef of a type that is built on the other name. -/
def LeadsTo (decls : Declarations) (name other : String) : Prop :=
  ∃ underlying, decls.typedefs.find? name = some underlying ∧ underlying.root = .named other

/-- No typedef leads back to itself. -/
def IsAcyclic (decls : Declarations) : Prop :=
  ∀ name, ¬Relation.TransGen decls.LeadsTo name name

/-- Typedefs that lead to names of lower rank only are acyclic. -/
theorem isAcyclic_of_rank (rank : String → Nat)
    (h : ∀ name other, decls.LeadsTo name other → rank other < rank name) : decls.IsAcyclic := by
  have hlt : ∀ name other, Relation.TransGen decls.LeadsTo name other →
      rank other < rank name := by
    intro name other hleads
    induction hleads with
    | single hstep => exact h _ _ hstep
    | tail _ hstep ih => exact Nat.lt_trans (h _ _ hstep) ih
  exact fun name hleads => Nat.lt_irrefl _ (hlt name name hleads)

theorem exists_leadsTo_of_next? {base : CxxType.Base} {other : String}
    (h : decls.next? base = some (.named other)) :
    ∃ name, base = .named name ∧ decls.LeadsTo name other := by
  cases base with
  | named name =>
    obtain ⟨underlying, hfind, hroot⟩ := Option.map_eq_some_iff.1 h
    exact ⟨name, rfl, underlying, hfind, hroot⟩
  | builtin kind => cases h
  | enumeration name => cases h

/-- A name in a chain leads to those behind it. -/
theorem transGen_of_chain {base : CxxType.Base} {first later : Nat} {other : String}
    (hlt : first < later) (hfirst : decls.chain base first = some (.named name))
    (hlater : decls.chain base later = some (.named other)) :
    Relation.TransGen decls.LeadsTo name other := by
  induction hlt generalizing other with
  | refl =>
    rw [chain, hfirst, Option.bind_some] at hlater
    obtain ⟨_, ⟨⟩, hleads⟩ := exists_leadsTo_of_next? hlater
    exact .single hleads
  | step _ ih =>
    obtain ⟨between, hbetween, hnext⟩ := Option.bind_eq_some_iff.1 hlater
    obtain ⟨last, rfl, hleads⟩ := exists_leadsTo_of_next? hnext
    exact (ih hbetween).tail hleads

/-- **Every type resolves** if no typedef leads back to itself. -/
theorem exists_resolve_of_isAcyclic (h : decls.IsAcyclic) (type : CxxType) :
    ∃ resolved, decls.resolve type = .ok resolved := by
  obtain ⟨count, -, hresolves⟩ := decls.resolve_resolves type
  cases hresult : decls.resolve type with
  | ok resolved => exact ⟨resolved, rfl⟩
  | error error =>
    obtain ⟨⟨first, hfirst⟩, -⟩ := (hresult ▸ hresolves).isFirstRepeated
    exact absurd (transGen_of_chain hfirst.lt hfirst.first_eq hfirst.again_eq) (h error.name)

/-! ## Resolved typedefs -/

/-- The declarations with every typedef resolved by itself. -/
def flattened (decls : Declarations) : Declarations :=
  { decls with typedefs := decls.typedefs.mapValues decls.resolveOrKeep }

theorem find?_flattened (decls : Declarations) (name : String) :
    decls.flattened.typedefs.find? name =
      (decls.typedefs.find? name).map decls.resolveOrKeep :=
  Dict.find?_mapValues decls.resolveOrKeep decls.typedefs name

/-- The same names are typedefs when they are resolved. -/
theorem isResolved_flattened : decls.flattened.IsResolved type ↔ decls.IsResolved type := by
  unfold IsResolved
  simp only [find?_flattened, Option.map_eq_none_iff]

/-- A type that resolves does so too if fewer names were replaced before. -/
theorem resolveFrom_of_subset {seen fewer : List String} {resolved : CxxType}
    (hsub : fewer ⊆ seen) (h : decls.resolveFrom seen type = .ok resolved) :
    decls.resolveFrom fewer type = .ok resolved := by
  obtain ⟨count, -, hresolves⟩ := decls.resolveFrom_resolves seen type
  rw [h] at hresolves
  clear h
  generalize hresult : Except.ok resolved = result at hresolves
  induction hresolves generalizing fewer with
  | resolved hresolved => exact resolveFrom_of_isResolved hresolved _
  | repeated => cases hresult
  | replaced hname hfind hseen _ ih =>
    rw [resolveFrom_of_find? hname hfind fun hin => hseen (hsub hin)]
    exact ih (List.cons_subset_cons _ hsub) hresult

/-- **Typedefs may be resolved before they are used** if none leads back to itself. -/
theorem resolve_flattened (h : decls.IsAcyclic) (type : CxxType) :
    decls.flattened.resolve type = decls.resolve type := by
  by_cases hresolved : decls.IsResolved type
  · rw [resolve_of_isResolved hresolved, resolve_of_isResolved (isResolved_flattened.2 hresolved)]
  · unfold IsResolved at hresolved
    push Not at hresolved
    obtain ⟨name, hname, htypedef⟩ := hresolved
    obtain ⟨underlying, hfind⟩ := Option.ne_none_iff_exists'.1 htypedef
    obtain ⟨last, hlast⟩ := exists_resolve_of_isAcyclic h type
    obtain ⟨inner, hinner⟩ := exists_resolve_of_isAcyclic h underlying
    have hflat : decls.flattened.typedefs.find? name = some inner := by
      rw [find?_flattened, hfind, Option.map_some, resolveOrKeep_of_resolve hinner]
    -- With the typedef resolved, one replacement is enough.
    have hone : decls.flattened.resolve type = .ok (type.replaceBase inner) := by
      rw [resolve, resolveFrom_of_find? hname hflat List.not_mem_nil]
      refine resolveFrom_of_isResolved (isResolved_flattened.2 fun other hroot => ?_) _
      rw [CxxType.root_replaceBase] at hroot
      exact isResolved_of_resolve hinner other hroot
    have hmany : decls.resolve type =
        (decls.resolveFrom [name] underlying).map type.replaceBase := by
      rw [resolve, resolveFrom_of_find? hname hfind List.not_mem_nil, resolveFrom_replaceBase]
    obtain ⟨found, hfound, hshape⟩ := Except.map_eq_ok.1 (hmany.symm.trans hlast)
    obtain rfl : inner = found := Except.ok.inj
      (hinner.symm.trans (resolveFrom_of_subset (List.nil_subset _) hfound))
    rw [hone, hlast, hshape]

/-- **Resolving typedefs is compositional.** Replacing bases is associative. Resolving commutes with
every declarator, `const` or not, also when it fails. If no typedef leads back to itself, each of
them resolves by itself, and with all typedefs resolved in advance every type resolves to the same
type as before. -/
theorem resolve_compositional (decls : Declarations) :
    (∀ type new newer : CxxType,
      (type.replaceBase new).replaceBase newer = type.replaceBase (new.replaceBase newer)) ∧
    (∀ isConst declarator inner, decls.resolve (.declared isConst declarator inner) =
      (decls.resolve inner).map (.declared isConst declarator)) ∧
    (decls.IsAcyclic →
      (∀ name underlying, decls.typedefs.find? name = some underlying → ∃ resolved,
        decls.resolve underlying = .ok resolved ∧
          decls.flattened.typedefs.find? name = some resolved) ∧
      ∀ type, decls.flattened.resolve type = decls.resolve type) := by
  refine ⟨CxxType.replaceBase_replaceBase, decls.resolve_declared, fun hacyclic =>
    ⟨fun name underlying hfind => ?_, resolve_flattened hacyclic⟩⟩
  obtain ⟨resolved, hresolved⟩ := exists_resolve_of_isAcyclic hacyclic underlying
  refine ⟨resolved, hresolved, ?_⟩
  rw [find?_flattened, hfind, Option.map_some, resolveOrKeep_of_resolve hresolved]

/-- A typedef of a typedef, both of which are `const`. -/
def handles : Declarations where
  name := "handles"
  typedefs := Dict.ofList [("FooPtr", .declared true .pointer (.named "Foo")),
    ("FooHandle", .base true (.named "FooPtr"))]

theorem resolve_compositional_of_handles :
    handles.IsAcyclic ∧ handles.flattened.resolve (.lvalueReference (.named "FooHandle")) =
      .ok (.lvalueReference (.declared true .pointer (.named "Foo"))) := by
  have hacyclic : handles.IsAcyclic := by
    refine isAcyclic_of_rank (fun name =>
      if name = "FooHandle" then 2 else if name = "FooPtr" then 1 else 0) ?_
    rintro name other ⟨underlying, hfind, hroot⟩
    change List.lookup name [("FooHandle", CxxType.base true (.named "FooPtr")),
      ("FooPtr", .declared true .pointer (.named "Foo"))] = some underlying at hfind
    rw [Dict.lookup_cons_eq_ite, Dict.lookup_cons_eq_ite] at hfind
    split at hfind
    · next hname =>
      cases hfind
      cases hroot
      rw [hname]
      decide
    · split at hfind
      · next hname =>
        cases hfind
        cases hroot
        rw [hname]
        decide
      · cases hfind
  obtain ⟨-, hdeclared, hflattened⟩ := handles.resolve_compositional
  have hhandle : handles.resolve (.named "FooHandle") =
      .ok (.declared true .pointer (.named "Foo")) := by
    have houter : handles.typedefs.find? "FooHandle" = some (.base true (.named "FooPtr")) := by
      decide
    have hinner : handles.typedefs.find? "FooPtr" =
        some (.declared true .pointer (.named "Foo")) := by
      decide
    rw [resolve, resolveFrom_of_find? rfl houter List.not_mem_nil,
      resolveFrom_of_find? rfl hinner (by decide)]
    refine resolveFrom_of_isResolved (fun name hroot => ?_) _
    cases hroot
    decide
  refine ⟨hacyclic, ?_⟩
  rw [(hflattened hacyclic).2, CxxType.lvalueReference, hdeclared, hhandle]
  rfl

end Declarations

end FortranBindings
