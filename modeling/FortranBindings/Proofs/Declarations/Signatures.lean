import FortranBindings.Proofs.CxxType.Signature
import FortranBindings.Proofs.Declarations.Flattening

/-!
# Signatures of resolved types

A type that was read is what its signature spells. Resolving the typedefs in its base can break this
in one way only: a `const` that was spelled in front of a name comes to stand on a reference that
the name is a typedef of (`Declarations.QualifiesReference`), where a signature does not show it.
Otherwise the signature of a resolved type is read back as the type
(`Declarations.signature_of_resolve_exact`).
-/

namespace FortranBindings

namespace CxxType

variable {type new : CxxType}

/-- The types that have a spelling are those whose base has one and whose references are not
`const`. -/
theorem wellSpelled_iff : type.WellSpelled ↔ type.root.WellSpelled ∧ type.normal = type := by
  induction type with
  | base c b => simp [WellSpelled, root, normal]
  | declared c d inner ih =>
    rw [WellSpelled, root, normal, ih, declared.injEq]
    simp only [Bool.and_eq_left_iff_imp, decide_eq_true_eq, true_and]
    exact and_left_comm

/-- **Replacing the base** makes a reference `const` exactly if a `const` base is replaced by a
reference, as long as neither type has a `const` reference itself. -/
theorem normal_replaceBase_iff : (type.replaceBase new).normal = type.replaceBase new ↔
    type.normal = type ∧ new.normal = new ∧
      ¬(type.innermost.isConst = true ∧ new.isReference = true) := by
  induction type with
  | base c b =>
    cases new with
    | base c' b' => simp [replaceBase, withConst, normal, isReference]
    | declared c' d inner =>
      simp only [replaceBase, withConst, normal, declared.injEq, innermost, isConst, isReference]
      cases c <;> cases c' <;> cases d <;> simp
  | declared c d inner ih =>
    rw [replaceBase, normal, normal, declared.injEq, declared.injEq, ih, innermost]
    simp only [true_and, and_assoc]

end CxxType

namespace Declarations

variable {decls : Declarations} {type resolved underlying : CxxType} {name : String}

/-- On the way to what a type resolves to, a `const` name is replaced by a reference that it is a
typedef of. -/
inductive QualifiesReference (decls : Declarations) : CxxType → Prop
  | here {type underlying : CxxType} {name : String} (hname : type.root = .named name)
    (hfind : decls.typedefs.find? name = some underlying)
    (hconst : type.innermost.isConst = true) (hreference : underlying.isReference = true) :
    QualifiesReference decls type
  | later {type underlying : CxxType} {name : String} (hname : type.root = .named name)
    (hfind : decls.typedefs.find? name = some underlying)
    (h : QualifiesReference decls (type.replaceBase underlying)) : QualifiesReference decls type

/-- Where a name is replaced, it is replaced by a reference while it is `const`, or a later one
is. -/
theorem qualifiesReference_iff (hname : type.root = .named name)
    (hfind : decls.typedefs.find? name = some underlying) :
    decls.QualifiesReference type ↔
      (type.innermost.isConst = true ∧ underlying.isReference = true) ∨
        decls.QualifiesReference (type.replaceBase underlying) := by
  refine ⟨fun h => ?_, ?_⟩
  · cases h with
    | here hname' hfind' hconst hreference =>
      cases hname.symm.trans hname'
      cases hfind.symm.trans hfind'
      exact .inl ⟨hconst, hreference⟩
    | later hname' hfind' h =>
      cases hname.symm.trans hname'
      cases hfind.symm.trans hfind'
      exact .inr h
  · rintro (⟨hconst, hreference⟩ | h)
    · exact .here hname hfind hconst hreference
    · exact .later hname hfind h

theorem not_qualifiesReference_of_isResolved (h : decls.IsResolved type) :
    ¬decls.QualifiesReference type := by
  rintro (⟨hname, hfind, -, -⟩ | ⟨hname, hfind, -⟩) <;> cases hfind.symm.trans (h _ hname)

/-- Nothing becomes a `const` reference where no name is a typedef of a reference. -/
theorem not_qualifiesReference (h : ∀ name underlying,
    decls.typedefs.find? name = some underlying → underlying.isReference = false) :
    ¬decls.QualifiesReference type := by
  intro hqualifies
  induction hqualifies with
  | here _ hfind _ hreference => cases hreference.symm.trans (h _ _ hfind)
  | later _ _ _ ih => exact ih

/-- A resolved type has no `const` reference exactly if the type had none and it came to none on the
way. -/
theorem Resolves.normal_iff {seen : List String} {count : Nat}
    (htypedefs : ∀ name underlying, decls.typedefs.find? name = some underlying →
      underlying.normal = underlying)
    (h : decls.Resolves seen type count (.ok resolved)) :
    resolved.normal = resolved ↔ type.normal = type ∧ ¬decls.QualifiesReference type := by
  generalize hresult : Except.ok resolved = result at h
  induction h with
  | resolved h =>
    cases hresult
    exact (and_iff_left (not_qualifiesReference_of_isResolved h)).symm
  | repeated => cases hresult
  | replaced hname hfind _ _ ih =>
    rw [ih hresult, CxxType.normal_replaceBase_iff, qualifiesReference_iff hname hfind, not_or,
      and_iff_right (htypedefs _ _ hfind), and_assoc]

/-- **Signatures of resolved types are exact.** Take typedefs and a type that can be read, and let
the type resolve. The signature of the resolved type is a spelling of this type up to the `const` of
references. It is a spelling of exactly this type if and only if no `const` name is replaced by a
reference on the way, and so always if no name is a typedef of a reference. -/
theorem signature_of_resolve_exact
    (htypedefs : ∀ name underlying, decls.typedefs.find? name = some underlying →
      underlying.IsSpelled)
    (htype : type.IsSpelled) (h : decls.resolve type = .ok resolved) :
    CxxType.ofSpelling resolved.signature = .ok resolved.normal ∧
      (CxxType.ofSpelling resolved.signature = .ok resolved ↔ ¬decls.QualifiesReference type) ∧
      ((∀ name underlying, decls.typedefs.find? name = some underlying →
          underlying.isReference = false) →
        CxxType.ofSpelling resolved.signature = .ok resolved) := by
  have hspelled : ∀ name underlying, decls.typedefs.find? name = some underlying →
      underlying.root.WellSpelled ∧ underlying.normal = underlying := fun name underlying hfind =>
    CxxType.wellSpelled_iff.1 (CxxType.isSpelled_iff.1 (htypedefs name underlying hfind))
  obtain ⟨hroot, hnormal⟩ := CxxType.wellSpelled_iff.1 (CxxType.isSpelled_iff.1 htype)
  have hresolved : resolved.root.WellSpelled :=
    root_of_resolveFrom (fun name underlying hfind => (hspelled name underlying hfind).1) h hroot
  have hread : CxxType.ofSpelling resolved.signature = .ok resolved.normal := by
    rw [← CxxType.signature_normal]
    exact CxxType.ofSpelling_signature (CxxType.wellSpelled_normal hresolved)
  have hexact : CxxType.ofSpelling resolved.signature = .ok resolved ↔
      ¬decls.QualifiesReference type := by
    obtain ⟨count, -, hresolves⟩ := decls.resolve_resolves type
    have hiff := (h ▸ hresolves).normal_iff fun name underlying hfind =>
      (hspelled name underlying hfind).2
    rw [hread, Except.ok.injEq, hiff, and_iff_right hnormal]
  exact ⟨hread, hexact, fun hnone => hexact.2 (not_qualifiesReference hnone)⟩

/-- A typedef of a `const` name, which is itself a typedef of a reference. -/
def aliasedReferences : Declarations where
  name := "aliases"
  typedefs := Dict.ofList [("Handle", .lvalueReference (.named "Foo")),
    ("Slot", .base true (.named "Handle"))]

theorem aliasedReferences_find? : aliasedReferences.typedefs.find? "Slot" =
      some (.base true (.named "Handle")) ∧
    aliasedReferences.typedefs.find? "Handle" = some (.lvalueReference (.named "Foo")) := by
  decide

theorem aliasedReferences_isSpelled (name : String) (underlying : CxxType)
    (hfind : aliasedReferences.typedefs.find? name = some underlying) : underlying.IsSpelled := by
  refine CxxType.isSpelled_iff.2 ?_
  change List.lookup name [("Handle", CxxType.lvalueReference (.named "Foo")),
    ("Slot", .base true (.named "Handle"))] = some underlying at hfind
  rw [Dict.lookup_cons_eq_ite, Dict.lookup_cons_eq_ite] at hfind
  split at hfind
  · cases hfind
    exact ⟨nofun, by decide, by decide, by decide⟩
  · split at hfind
    · cases hfind
      exact ⟨by decide, by decide, by decide⟩
    · cases hfind

theorem resolve_slot : aliasedReferences.resolve (.named "Slot") =
    .ok (.declared true .lvalueReference (.named "Foo")) := by
  obtain ⟨hslot, hhandle⟩ := aliasedReferences_find?
  rw [resolve, resolveFrom_of_find? rfl hslot List.not_mem_nil,
    resolveFrom_of_find? rfl hhandle (by decide)]
  refine resolveFrom_of_isResolved (fun name hroot => ?_) _
  cases hroot
  decide

theorem isSpelled_slot : (CxxType.named "Slot").IsSpelled :=
  CxxType.isSpelled_iff.2 ⟨by decide, by decide, by decide⟩

/-- What the typedefs lead to is a `const` reference, and its signature is that of another type. -/
theorem signature_of_resolve_aliased :
    aliasedReferences.QualifiesReference (.named "Slot") ∧
      CxxType.ofSpelling "Foo &" = .ok (.lvalueReference (.named "Foo")) ∧
      CxxType.ofSpelling "Foo &" ≠ .ok (.declared true .lvalueReference (.named "Foo")) := by
  obtain ⟨hslot, hhandle⟩ := aliasedReferences_find?
  have hqualifies : aliasedReferences.QualifiesReference (.named "Slot") :=
    .later rfl hslot (.here rfl hhandle rfl rfl)
  obtain ⟨hread, hexact, -⟩ :=
    signature_of_resolve_exact aliasedReferences_isSpelled isSpelled_slot resolve_slot
  exact ⟨hqualifies, hread, fun hsame => hexact.1 hsame hqualifies⟩

/-- Not every resolved type is what its signature spells. -/
theorem not_signature_of_resolve : ¬∀ (decls : Declarations) (type resolved : CxxType),
    (∀ name underlying, decls.typedefs.find? name = some underlying → underlying.IsSpelled) →
      type.IsSpelled → decls.resolve type = .ok resolved →
        CxxType.ofSpelling resolved.signature = .ok resolved := by
  intro hall
  have hread := hall _ _ _ aliasedReferences_isSpelled isSpelled_slot resolve_slot
  have hspelled := CxxType.isSpelled_iff.1 ⟨_, hread⟩
  cases hspelled.1 rfl

end Declarations

end FortranBindings
