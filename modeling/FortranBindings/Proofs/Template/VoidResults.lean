import FortranBindings.Bridge.Basic
import FortranBindings.Proofs.Template.Interoperability

/-!
# Results that are returned as nothing

The C type of a result is looked up, and a wrapper returns nothing if it is found to be `void`. With
the built-in table this is so for the types that resolve to `void`, through whatever typedefs and
with or without `const`, unless the type itself is one of the generic names, which the table has
code for (`Lookup.code_ctypeOut_eq_void_iff`).
-/

namespace FortranBindings

open TypemapTable (Block blockOf?)

/-- The type stands for `void` and is not one of the generic names by itself. -/
structure Declarations.ReturnsNothing (decls : Declarations) (type : CxxType) : Prop where
  resolvesToVoid : decls.ResolvesToVoid type
  ne_class : type ≠ .named genericClass
  ne_enumeration : type ≠ .named genericEnumeration

/-- What is declared as `void`, with or without `const`, returns nothing. -/
theorem Declarations.returnsNothing_of_isVoid {decls : Declarations} {type : CxxType}
    (h : type.isVoid = true) : decls.ReturnsNothing type := by
  cases type with
  | declared => cases h
  | base isConst base =>
    obtain rfl : base = .builtin .void := of_decide_eq_true h
    have hself : decls.IsResolved (.base isConst (.builtin .void)) := nofun
    exact ⟨⟨_, Declarations.resolve_of_isResolved hself, h⟩, nofun, nofun⟩

namespace TypemapTable

/-- Every block has a C type, and it is `void` in the block of `void` only. -/
theorem exists_ctype : ∀ block ∈ blocks, ∃ cType ∈ block.typemap? "ctype",
    (cType.code = voidName ↔ block.type = .void) := by
  decide +kernel

/-- The blocks of types that are a base by themselves. -/
theorem type_of_baseName? : ∀ block ∈ blocks, block.type.baseName?.isSome →
    block.type.pointee? = none →
      block.type = .named genericClass ∨ block.type = .named genericEnumeration := by
  decide +kernel

theorem type_of_isVoid : ∀ block ∈ blocks, block.type.isVoid = true → block.type = .void := by
  decide +kernel

end TypemapTable

namespace Sources

variable {decls : Declarations} {type form : CxxType} {block : Block}

/-- A type that resolves to `void` is tried as it is declared, and as `void` with or without
`const`. -/
theorem eq_or_isVoid_of_mem (h : decls.ResolvesToVoid type)
    (hform : form ∈ (builtin decls).forms type) : form = type ∨ form.isVoid = true := by
  obtain ⟨resolved, hresolve, hvoid⟩ := h
  have hresolved := Declarations.resolveOrKeep_of_resolve hresolve
  cases resolved with
  | declared => cases hvoid
  | base isConst base =>
    obtain rfl : base = .builtin .void := of_decide_eq_true hvoid
    rcases List.mem_append.1 hform with hown | hgeneric
    · simp only [ownForms, List.mem_cons, List.not_mem_nil, or_false] at hown
      change form = type ∨ form = decls.resolveOrKeep type ∨
        form = (decls.resolveOrKeep type).withoutQualifiers at hown
      rw [hresolved] at hown
      rcases hown with rfl | rfl | rfl
      · exact .inl rfl
      · exact .inr rfl
      · exact .inr rfl
    · obtain ⟨name, hname, -⟩ := mem_genericForms hgeneric
      change (builtin decls).genericName? (decls.resolveOrKeep type) = _ at hname
      rw [hresolved, genericName?_of_resolve hresolve] at hname
      cases hname

theorem search?_ctype : (builtin decls).search? ["ctype"] type =
    (firstBlock? decls type).bind (·.typemap? "ctype") := by
  refine search?_eq_firstBlock? fun form _ block hblock => ?_
  obtain ⟨cType, hcType, -⟩ :=
    TypemapTable.exists_ctype block (TypemapTable.mem_of_blockOf? hblock).1
  exact Option.isSome_iff_exists.2 ⟨cType, hcType⟩

section

variable (htypedefs : decls.HasSpelledTypedefs) (htype : type.IsSpelled)

include htypedefs htype

/-- Whatever a type that returns nothing is tried as has the block of `void`, if it has one. -/
theorem type_of_returnsNothing (h : decls.ReturnsNothing type)
    (hform : form ∈ (builtin decls).forms type) (hblock : blockOf? form.signature = some block) :
    block.type = .void := by
  have hmem := (TypemapTable.mem_of_blockOf? hblock).1
  have hvoid (hisVoid : form.isVoid = true) : block.type = .void := by
    cases form with
    | declared => cases hisVoid
    | base isConst base =>
      have heq := type_eq_of_blockOf? htypedefs htype hform hblock
      exact TypemapTable.type_of_isVoid block hmem (heq ▸ hisVoid)
  obtain rfl | hisVoid := eq_or_isVoid_of_mem h.resolvesToVoid hform
  · obtain ⟨resolved, hresolve, hresolved⟩ := h.resolvesToVoid
    cases resolved with
    | declared => cases hresolved
    | base isConst base =>
      obtain ⟨isConst', base', rfl⟩ := Declarations.exists_base_of_resolveFrom hresolve
      by_cases hnamed : ∃ name, base' = .named name
      · obtain ⟨name, rfl⟩ := hnamed
        have heq := type_eq_of_blockOf? htypedefs htype hform hblock
        obtain hclass | henum := TypemapTable.type_of_baseName? block hmem (heq ▸ rfl) (heq ▸ rfl)
        · exact absurd (heq.symm.trans hclass) h.ne_class
        · exact absurd (heq.symm.trans henum) h.ne_enumeration
      · -- Nothing is resolved here.
        have hself : decls.resolveOrKeep (.base isConst' base') = .base isConst' base' :=
          Declarations.resolveOrKeep_of_root fun name hname => hnamed ⟨name, hname⟩
        rw [Declarations.resolveOrKeep_of_resolve hresolve] at hself
        exact hvoid (hself ▸ hresolved)
  · exact hvoid hisVoid

theorem exists_firstBlock?_of_returnsNothing (h : decls.ReturnsNothing type) :
    ∃ block, firstBlock? decls type = some block ∧ block ∈ TypemapTable.blocks ∧
      block.type = .void := by
  obtain ⟨resolved, hresolve, hvoid⟩ := h.resolvesToVoid
  have hplain : CxxType.void ∈ (builtin decls).forms type := by
    refine List.mem_append_left _ ?_
    change CxxType.void ∈ ownForms decls type
    rw [ownForms, Declarations.resolveOrKeep_of_resolve hresolve]
    cases resolved with
    | declared => cases hvoid
    | base isConst base =>
      obtain rfl : base = .builtin .void := of_decide_eq_true hvoid
      exact .tail _ (.tail _ (.head _))
  have hsome : (firstBlock? decls type).isSome := by
    rw [firstBlock?, List.findSome?_isSome_iff]
    exact ⟨.void, hplain, by decide +kernel⟩
  obtain ⟨block, hblock⟩ := Option.isSome_iff_exists.1 hsome
  obtain ⟨form, hform, hfound⟩ := List.exists_of_findSome?_eq_some hblock
  exact ⟨block, hblock, (TypemapTable.mem_of_blockOf? hfound).1,
    type_of_returnsNothing htypedefs htype h hform hfound⟩

/-- The first block of a type is the one of `void` exactly if the type returns nothing. -/
theorem type_of_firstBlock? (hfirst : firstBlock? decls type = some block) :
    block.type = .void ↔ decls.ReturnsNothing type := by
  constructor
  · intro hblock
    obtain ⟨form, hform, hfound⟩ := List.exists_of_findSome?_eq_some hfirst
    have hgeneric {name : String} (hsome : (blockOf? (CxxType.named name).signature).isSome) :
        type ≠ .named name := by
      rintro rfl
      obtain ⟨other, hother⟩ := Option.isSome_iff_exists.1 hsome
      have hself : .named name ∈ (builtin decls).forms (.named name) :=
        List.mem_append_left _ List.mem_cons_self
      have hfirst' : firstBlock? decls (.named name) = some other := by
        change ((_ :: _).findSome? _) = _
        rw [List.findSome?_cons, hother]
      obtain rfl := Option.some.inj (hfirst.symm.trans hfirst')
      have heq := type_eq_of_blockOf? htypedefs htype hself hother
      cases heq.symm.trans hblock
    refine ⟨?_, hgeneric (by decide +kernel), hgeneric (by decide +kernel)⟩
    by_contra hvoid
    exact type_ne_void_of_blockOf? htypedefs htype hvoid hform hfound hblock
  · intro h
    obtain ⟨other, hother, -, hvoid⟩ := exists_firstBlock?_of_returnsNothing htypedefs htype h
    rwa [Option.some.inj (hfirst.symm.trans hother)]

end

end Sources

namespace Lookup

variable {decls : Declarations} {type : CxxType} {state : LookupState}

theorem placeholderName_ne_void (type : CxxType) : placeholderName type ≠ voidName := by
  intro h
  have hfirst := congrArg (·.toList.head?) h
  simp [placeholderName, voidName] at hfirst

/-- **Which results are returned as nothing.** Whatever was looked up before, the C type of a result
is found to be `void` exactly if the type of the result stands for `void`, through whatever typedefs
and with or without `const`, and is not one of the generic names. -/
theorem code_ctypeOut_eq_void_iff (htypedefs : decls.HasSpelledTypedefs) (htype : type.IsSpelled)
    (hs : state.Sound (.builtin decls)) (location : Location) :
    ((code (.builtin decls) (typeRequest "ctype" (some "out") type .required location)).run
      state).1 = voidName ↔ decls.ReturnsNothing type := by
  have hspecial : "ctype" ++ ":" ++ "out" = "ctype:out" := by decide
  have hoperations : (typeRequest "ctype" (some "out") type .required location).operations =
      ["ctype:out", "ctype"] := congrArg (· :: ["ctype"]) hspecial
  have hcode : ((code (.builtin decls) (typeRequest "ctype" (some "out") type .required
      location)).run state).1 = ((typeAnswer decls state (typeRequest "ctype" (some "out") type
        .required location)).map Typemap.code).getD "" := rfl
  rw [hcode, typeAnswer_eq (by decide) htype hs hoperations, search?_pair, Sources.search?_ctype]
  rcases Sources.search?_ctypeOut htypedefs htype with hnone | ⟨hpointer, hclass⟩
  · rw [hnone, Option.none_or]
    cases hfirst : Sources.firstBlock? decls type with
    | none =>
      refine iff_of_false (placeholderName_ne_void type) fun h => ?_
      obtain ⟨block, hblock, -⟩ := Sources.exists_firstBlock?_of_returnsNothing htypedefs htype h
      cases hfirst.symm.trans hblock
    | some block =>
      obtain ⟨form, -, hfound⟩ := List.exists_of_findSome?_eq_some hfirst
      have hmem := (TypemapTable.mem_of_blockOf? hfound).1
      obtain ⟨cType, hcType, hvoid⟩ := TypemapTable.exists_ctype block hmem
      rw [Option.bind_some, answered_of_mem hmem (by decide) hcType, Option.map_some,
        Option.getD_some, hvoid, Sources.type_of_firstBlock? htypedefs htype hfirst]
  · -- A class by value is returned through a pointer.
    rw [hpointer, Option.some_or, answered, named, TypemapTable.mentions_classToken (by decide)]
    have hpointer_ne : "void *" ≠ voidName := by decide
    refine iff_of_false hpointer_ne fun h => ?_
    obtain rfl | ⟨isConst, name, hname⟩ := Sources.resolveOrKeep_of_class_mem hclass
    · exact h.ne_class rfl
    · obtain ⟨resolved, hresolve, hresolved⟩ := h.resolvesToVoid
      rw [Declarations.resolveOrKeep_of_resolve hresolve] at hname
      rw [hname] at hresolved
      cases hresolved

end Lookup

end FortranBindings
