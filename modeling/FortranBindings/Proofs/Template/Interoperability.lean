import FortranBindings.Proofs.Template.Coverage
import FortranBindings.Proofs.Template.History
import FortranBindings.Proofs.TypemapTable.Interoperability

/-!
# Both sides of a call agree

The C type of an argument or a result and its Fortran type are looked up apart from each other. In
the built-in table they are passed in the same way nevertheless, because both come from the first
block there is for the type (`Lookup.types_agree`). The one exception is a result of a type that is
named like the generic enum without being an enum (`Lookup.types_disagree`).
-/

namespace FortranBindings

open TypemapTable (Block blockOf? Corresponds)

/-- The typedefs stand for types that can be read. -/
def Declarations.HasSpelledTypedefs (decls : Declarations) : Prop :=
  ∀ name underlying, decls.typedefs.find? name = some underlying → underlying.IsSpelled

/-! ## The types that a type is tried as -/

namespace Sources

/-- The type with the name in signatures in place of its base. -/
def genericForms (sources : Sources) (type : CxxType) : List CxxType :=
  let resolved := sources.decls.resolveOrKeep type
  match sources.genericName? resolved with
  | some name =>
    [resolved.replaceBase (.named name), resolved.withoutQualifiers.replaceBase (.named name)]
  | none => []

/-- The type as it is declared and with its typedefs resolved. -/
def ownForms (decls : Declarations) (type : CxxType) : List CxxType :=
  [type, decls.resolveOrKeep type, (decls.resolveOrKeep type).withoutQualifiers]

/-- The types whose signatures a type is tried with. -/
def forms (sources : Sources) (type : CxxType) : List CxxType :=
  ownForms sources.decls type ++ sources.genericForms type

theorem signatures_eq_map (sources : Sources) (type : CxxType) :
    sources.signatures type = (sources.forms type).map CxxType.signature :=
  rfl

variable {decls : Declarations} {type form : CxxType}

theorem mem_genericForms {sources : Sources} (h : form ∈ sources.genericForms type) :
    ∃ name, sources.genericName? (sources.decls.resolveOrKeep type) = some name ∧
      (form = (sources.decls.resolveOrKeep type).replaceBase (.named name) ∨
        form = (sources.decls.resolveOrKeep type).withoutQualifiers.replaceBase (.named name)) := by
  unfold genericForms at h
  dsimp only at h
  split at h
  · next name hname => exact ⟨name, hname, by simpa using h⟩
  · cases h

/-- What a generic name stands for: the one of classes for another name. -/
theorem genericName?_eq_some {name : String}
    (h : (builtin decls).genericName? (decls.resolveOrKeep type) = some name) :
    (name = genericClass ∧ ∃ other, (decls.resolveOrKeep type).root = .named other) ∨
      name = genericEnumeration := by
  unfold genericName? at h
  have hnamed {category : TypeCategory}
      (hcategory : decls.categorize (decls.resolveOrKeep type) = .ok category)
      (hclass : category.isClassLike = true) :
      ∃ other, (decls.resolveOrKeep type).root = .named other := by
    obtain ⟨-, rfl⟩ := Declarations.eq_categorizeBase_of_categorize hcategory
    unfold Declarations.categorizeBase at hclass
    split at hclass
    · cases hclass
    · cases hclass
    · next other hroot => exact ⟨other, hroot⟩
    · split at hclass <;> cases hclass
  split at h
  · cases h; exact .inr rfl
  · cases h; exact .inr rfl
  · next hcategory => cases h; exact .inl ⟨rfl, hnamed hcategory rfl⟩
  · next hcategory => cases h; exact .inl ⟨rfl, hnamed hcategory rfl⟩
  · cases h

section

variable (htypedefs : decls.HasSpelledTypedefs) (htype : type.IsSpelled)

include htypedefs htype

theorem wellSpelled_root_resolveOrKeep : (decls.resolveOrKeep type).root.WellSpelled :=
  Declarations.root_resolveOrKeep
    (fun name underlying hfind => (CxxType.isSpelled_iff.1 (htypedefs name underlying hfind)).root)
    (CxxType.isSpelled_iff.1 htype).root

/-- All names in the forms of a type can be read. -/
theorem wellSpelled_root_of_mem (hform : form ∈ (builtin decls).forms type) :
    form.root.WellSpelled := by
  have hresolved : (decls.resolveOrKeep type).root.WellSpelled :=
    wellSpelled_root_resolveOrKeep htypedefs htype
  rcases List.mem_append.1 hform with hform | hform
  · simp only [ownForms, List.mem_cons, List.not_mem_nil, or_false] at hform
    rcases hform with rfl | rfl | rfl
    · exact (CxxType.isSpelled_iff.1 htype).root
    · exact hresolved
    · exact (CxxType.root_withConst ..).symm ▸ hresolved
  · obtain ⟨name, hname, hform⟩ := mem_genericForms hform
    have hroot : form.root = .named name := by
      rcases hform with rfl | rfl <;> exact CxxType.root_replaceBase ..
    rw [hroot]
    rcases genericName?_eq_some hname with ⟨rfl, -⟩ | rfl <;> decide

end

theorem resolvesToVoid_of_isVoid (h : (decls.resolveOrKeep type).isVoid = true) :
    decls.ResolvesToVoid type := by
  cases hresolve : decls.resolve type with
  | ok resolved =>
    rw [Declarations.resolveOrKeep_of_resolve hresolve] at h
    exact ⟨resolved, hresolve, h⟩
  | error cycle =>
    rw [Declarations.resolveOrKeep, hresolve] at h
    cases type with
    | base c b =>
      have hroot : (CxxType.base c b).root = .builtin .void := of_decide_eq_true h
      have hresolved : decls.resolve (.base c b) = .ok (.base c b) := by
        refine Declarations.resolve_of_isResolved fun name hname => ?_
        cases hroot.symm.trans hname
      exact ⟨_, hresolved, h⟩
    | declared => cases h

/-- A type that does not resolve to `void` is not tried as `void`. -/
theorem ne_void_of_mem (hvoid : ¬decls.ResolvesToVoid type)
    (hform : form ∈ (builtin decls).forms type) : form ≠ .void := by
  rintro rfl
  rcases List.mem_append.1 hform with hform | hform
  · refine hvoid (resolvesToVoid_of_isVoid ?_)
    simp only [ownForms, List.mem_cons, List.not_mem_nil, or_false] at hform
    rcases hform with rfl | hresolved | hplain
    · rw [Declarations.resolveOrKeep_of_root fun name hname => CxxType.Base.noConfusion hname]
      rfl
    · exact hresolved ▸ rfl
    · change CxxType.void = (decls.resolveOrKeep type).withoutQualifiers at hplain
      cases hresolved : decls.resolveOrKeep type with
      | base c b =>
        rw [hresolved] at hplain
        cases hplain
        rfl
      | declared =>
        rw [hresolved] at hplain
        cases hplain
  · obtain ⟨name, -, hname⟩ := mem_genericForms hform
    have hroot : CxxType.void.root = .named name := by
      rcases hname with hname | hname <;> rw [hname] <;> exact CxxType.root_replaceBase ..
    cases hroot

/-! ## The first block -/

/-- The first block of the built-in table that there is for a form of the type. -/
def firstBlock? (decls : Declarations) (type : CxxType) : Option Block :=
  ((builtin decls).forms type).findSome? fun form => blockOf? form.signature

theorem search?_singleton (decls : Declarations) (type : CxxType) (operation : String) :
    (builtin decls).search? [operation] type = ((builtin decls).forms type).findSome? fun form =>
      (blockOf? form.signature).bind (·.typemap? operation) := by
  have hsearch : (builtin decls).search? [operation] type =
      ((builtin decls).signatures type).findSome? ((builtin decls).store operation) := by
    rw [search?, List.findSome?_cons, List.findSome?_nil]
    split <;> simp_all only
  rw [hsearch, signatures_eq_map, List.findSome?_map]
  simp only [Function.comp_def, store_builtin]

/-- An operation that all blocks of a type have is found in the first one. -/
theorem search?_eq_firstBlock? {operation : String}
    (h : ∀ form ∈ (builtin decls).forms type, ∀ block, blockOf? form.signature = some block →
      (block.typemap? operation).isSome) :
    (builtin decls).search? [operation] type =
      (firstBlock? decls type).bind (·.typemap? operation) := by
  rw [search?_singleton, firstBlock?]
  generalize (builtin decls).forms type = forms at h
  induction forms with
  | nil => rfl
  | cons form forms ih =>
    have hrest := ih fun other hother => h other (List.mem_cons_of_mem _ hother)
    rw [List.findSome?_cons, List.findSome?_cons]
    cases hblock : blockOf? form.signature with
    | none => exact hrest
    | some block =>
      obtain ⟨typemap, htypemap⟩ :=
        Option.isSome_iff_exists.1 (h form List.mem_cons_self block hblock)
      simp only [Option.bind_some, htypemap]

section

variable (htypedefs : decls.HasSpelledTypedefs) (htype : type.IsSpelled)

include htypedefs htype

/-- A block for a form that is a base by itself is the one of this form. -/
theorem type_eq_of_blockOf? {isConst : Bool} {base : CxxType.Base} {block : Block}
    (hform : .base isConst base ∈ (builtin decls).forms type)
    (hblock : blockOf? (CxxType.base isConst base).signature = some block) :
    block.type = .base isConst base := by
  obtain ⟨hmem, hsignature⟩ := TypemapTable.mem_of_blockOf? hblock
  exact CxxType.eq_base_of_signature_eq (TypemapTable.wellSpelled_root_blocks block hmem)
    (wellSpelled_root_of_mem htypedefs htype hform) hsignature

/-- A type that does not resolve to `void` has not the block of `void`. -/
theorem type_ne_void_of_blockOf? (hvoid : ¬decls.ResolvesToVoid type) {block : Block}
    (hform : form ∈ (builtin decls).forms type) (hblock : blockOf? form.signature = some block) :
    block.type ≠ .void := by
  obtain ⟨-, hsignature⟩ := TypemapTable.mem_of_blockOf? hblock
  intro hblockVoid
  rw [hblockVoid] at hsignature
  exact ne_void_of_mem hvoid hform (CxxType.eq_base_of_signature_eq
    (wellSpelled_root_of_mem htypedefs htype hform) trivial hsignature.symm)

theorem exists_hasTypes (hvoid : ¬decls.ResolvesToVoid type) {block : Block}
    (hform : form ∈ (builtin decls).forms type) (hblock : blockOf? form.signature = some block) :
    ∃ cType fortranType, block.HasTypes cType fortranType := by
  have hne := type_ne_void_of_blockOf? htypedefs htype hvoid hform hblock
  obtain ⟨cType, -, fortranType, -, htypes⟩ :=
    TypemapTable.exists_hasTypes block (TypemapTable.mem_of_blockOf? hblock).1 hne
  exact ⟨cType.code, fortranType.code, htypes⟩

/-- The types on both sides are those of the first block. -/
theorem search?_types (hvoid : ¬decls.ResolvesToVoid type) {operation : String}
    (hoperation : operation ∈ ["ctype", "imtype", "imtype:out"]) :
    (builtin decls).search? [operation] type =
      (firstBlock? decls type).bind (·.typemap? operation) := by
  refine search?_eq_firstBlock? fun form hform block hblock => ?_
  obtain ⟨cType, fortranType, htypes⟩ := exists_hasTypes htypedefs htype hvoid hform hblock
  simp only [List.mem_cons, List.not_mem_nil, or_false] at hoperation
  rcases hoperation with rfl | rfl | rfl
  · simp [htypes.ctype]
  · simp [htypes.imtype]
  · simp [htypes.imtypeOut]

/-- The C type of a result is another one than that of an argument for a class by value only. -/
theorem search?_ctypeOut : (builtin decls).search? ["ctype:out"] type = none ∨
    ((builtin decls).search? ["ctype:out"] type = some { code := "void *" } ∧
      .named genericClass ∈ (builtin decls).forms type) := by
  rw [search?_singleton]
  cases hfound : ((builtin decls).forms type).findSome? fun form =>
      (blockOf? form.signature).bind (·.typemap? "ctype:out") with
  | none => exact .inl rfl
  | some typemap =>
    obtain ⟨form, hform, htypemap⟩ := List.exists_of_findSome?_eq_some hfound
    obtain ⟨block, hblock, htypemap⟩ := Option.bind_eq_some_iff.1 htypemap
    obtain ⟨hmem, hsignature⟩ := TypemapTable.mem_of_blockOf? hblock
    rw [TypemapTable.ctypeOut_iff block hmem] at htypemap
    split at htypemap
    · next hclass =>
      cases htypemap
      rw [hclass] at hsignature
      have hnamed : (CxxType.Base.named genericClass).WellSpelled := by decide
      have heq : form = .named genericClass := CxxType.eq_base_of_signature_eq
        (wellSpelled_root_of_mem htypedefs htype hform) hnamed hsignature.symm
      exact .inr ⟨rfl, heq ▸ hform⟩
    · cases htypemap

omit htypedefs htype in
/-- A type that is tried as the generic class is this class or stands for a name by itself. -/
theorem resolveOrKeep_of_class_mem (h : .named genericClass ∈ (builtin decls).forms type) :
    type = .named genericClass ∨
      ∃ isConst name, decls.resolveOrKeep type = .base isConst (.named name) := by
  rcases List.mem_append.1 h with hown | hgeneric
  · simp only [ownForms, List.mem_cons, List.not_mem_nil, or_false] at hown
    rcases hown with htype | hresolved | hplain
    · exact .inl htype.symm
    · exact .inr ⟨_, _, hresolved.symm⟩
    · change _ = (decls.resolveOrKeep type).withoutQualifiers at hplain
      cases hresolved : decls.resolveOrKeep type with
      | base c b =>
        rw [hresolved] at hplain
        cases hplain
        exact .inr ⟨_, _, rfl⟩
      | declared =>
        rw [hresolved] at hplain
        cases hplain
  · obtain ⟨name, hname, hform⟩ := mem_genericForms hgeneric
    change _ = (decls.resolveOrKeep type).replaceBase _ ∨
      _ = (decls.resolveOrKeep type).withoutQualifiers.replaceBase _ at hform
    change (builtin decls).genericName? (decls.resolveOrKeep type) = _ at hname
    have hroot : CxxType.Base.named genericClass = .named name := by
      rcases hform with hform | hform
      · exact (congrArg CxxType.root hform).trans (CxxType.root_replaceBase ..)
      · exact (congrArg CxxType.root hform).trans (CxxType.root_replaceBase ..)
    obtain rfl := CxxType.Base.named.inj hroot
    have hnamed := (genericName?_eq_some hname).resolve_right (by decide)
    cases hresolved : decls.resolveOrKeep type with
    | base c b =>
      obtain ⟨-, other, hother⟩ := hnamed
      rw [hresolved] at hother
      cases hother
      exact .inr ⟨_, _, rfl⟩
    | declared =>
      rw [hresolved] at hform
      rcases hform with hform | hform <;> cases hform

omit htypedefs htype in
/-- A type that is tried as the generic class is this class or a name by itself. -/
theorem exists_named_of_class_mem (h : .named genericClass ∈ (builtin decls).forms type) :
    type = .named genericClass ∨ ∃ isConst name isConst' name',
      type = .base isConst (.named name) ∧
        decls.resolveOrKeep type = .base isConst' (.named name') := by
  refine (resolveOrKeep_of_class_mem h).imp_right fun ⟨isConst', name', hresolved⟩ => ?_
  obtain ⟨isConst, base, rfl⟩ := Declarations.exists_base_of_resolveOrKeep hresolved
  cases base with
  | named name => exact ⟨isConst, name, isConst', name', rfl, hresolved⟩
  | builtin | enumeration =>
    rw [Declarations.resolveOrKeep_of_root fun name hname => CxxType.Base.noConfusion hname]
      at hresolved
    cases hresolved

/-- A block for a form with a name by itself is the one of the generic class or of the generic
enum. -/
theorem imtypeOut_of_mem {isConst : Bool} {name : String} {block : Block}
    (hform : .base isConst (.named name) ∈ (builtin decls).forms type)
    (hblock : blockOf? (CxxType.base isConst (.named name)).signature = some block) :
    (CxxType.base isConst (.named name) = .named genericClass ∧
        block.typemap? "imtype:out" = some { code := "type(C_PTR)" }) ∨
      (CxxType.base isConst (.named name) = .named genericEnumeration ∧
        block.typemap? "imtype:out" = some { code := "integer(C_INT)" }) := by
  have htype := type_eq_of_blockOf? htypedefs htype hform hblock
  rw [← htype]
  refine TypemapTable.imtypeOut_of_named block (TypemapTable.mem_of_blockOf? hblock).1 ?_ ?_ ?_ <;>
    rw [htype] <;> rfl

/-- The first block for the forms with generic names is the one of the generic class if this is one
of these forms. -/
theorem imtypeOut_of_genericForms {isConst : Bool} {name : String}
    (hresolved : decls.resolveOrKeep type = .base isConst (.named name))
    (h : .named genericClass ∈ (builtin decls).genericForms type) {block : Block}
    (hblock : ((builtin decls).genericForms type).findSome? (fun form => blockOf? form.signature) =
      some block) :
    block.typemap? "imtype:out" = some { code := "type(C_PTR)" } := by
  obtain ⟨form, hform, hblock⟩ := List.exists_of_findSome?_eq_some hblock
  have hroot {other : CxxType} (hother : other ∈ (builtin decls).genericForms type) :
      ∃ generic isConst, (builtin decls).genericName? (decls.resolveOrKeep type) = some generic ∧
        other = .base isConst (.named generic) := by
    obtain ⟨generic, hname, hother⟩ := mem_genericForms hother
    change other = (decls.resolveOrKeep type).replaceBase _ ∨
      other = (decls.resolveOrKeep type).withoutQualifiers.replaceBase _ at hother
    rw [hresolved] at hother
    rcases hother with rfl | rfl <;> exact ⟨generic, _, hname, rfl⟩
  obtain ⟨generic, _, hname, rfl⟩ := hroot hform
  obtain ⟨generic', _, hname', hclass⟩ := hroot h
  obtain rfl := Option.some.inj (hname.symm.trans hname')
  cases hclass
  have hmem := List.mem_append_right (ownForms decls type) hform
  rcases imtypeOut_of_mem htypedefs htype hmem hblock with ⟨-, himtype⟩ | ⟨henum, -⟩
  · exact himtype
  · have hne : CxxType.Base.named genericClass ≠ .named genericEnumeration := by decide
    exact absurd (congrArg CxxType.root henum) hne

/-- The first block for the forms without generic names is the one of the generic enum only if the
type has this name. -/
theorem imtypeOut_of_ownForms
    (hnamed : ∀ form ∈ ownForms decls type, ∃ isConst name, form = .base isConst (.named name))
    {block : Block} (hblock : (ownForms decls type).findSome? (fun form =>
      blockOf? form.signature) = some block) :
    block.typemap? "imtype:out" = some { code := "type(C_PTR)" } ∨
      block.typemap? "imtype:out" = some { code := "integer(C_INT)" } ∧
        (type = .named genericEnumeration ∨
          (decls.resolveOrKeep type).withoutQualifiers = .named genericEnumeration) := by
  obtain ⟨form, hform, hblock⟩ := List.exists_of_findSome?_eq_some hblock
  obtain ⟨isConst, name, rfl⟩ := hnamed form hform
  have hmem := List.mem_append_left ((builtin decls).genericForms type) hform
  rcases imtypeOut_of_mem htypedefs htype hmem hblock with ⟨-, himtype⟩ | ⟨henum, himtype⟩
  · exact .inl himtype
  · refine .inr ⟨himtype, ?_⟩
    rw [henum] at hform
    simp only [ownForms, List.mem_cons, List.not_mem_nil, or_false] at hform
    rcases hform with hself | hresolved | hplain
    · exact .inl hself.symm
    · exact .inr (hresolved ▸ rfl)
    · exact .inr hplain.symm

/-- Where a type is tried as the generic class, its first block is the one of this class or the one
of the generic enum, and that one only if the type has this name. -/
theorem imtypeOut_of_class_mem (h : .named genericClass ∈ (builtin decls).forms type) :
    ∃ block, firstBlock? decls type = some block ∧
      (block.typemap? "imtype:out" = some { code := "type(C_PTR)" } ∨
        block.typemap? "imtype:out" = some { code := "integer(C_INT)" } ∧
          (type = .named genericEnumeration ∨
            (decls.resolveOrKeep type).withoutQualifiers = .named genericEnumeration)) := by
  obtain ⟨classBlock, hclassMem, hclassType, -⟩ := TypemapTable.hasBlock_class .value
  have hclass : blockOf? (CxxType.named genericClass).signature = some classBlock := by
    have hsignature := TypemapTable.blockOf?_signature hclassMem
    rwa [hclassType] at hsignature
  have hsome {forms : List CxxType} (hmem : .named genericClass ∈ forms) :
      forms.findSome? (fun form => blockOf? form.signature) ≠ none := by
    intro hnone
    cases hclass.symm.trans (List.findSome?_eq_none_iff.1 hnone _ hmem)
  have hfirst : firstBlock? decls type =
      ((ownForms decls type).findSome? fun form => blockOf? form.signature).or
        (((builtin decls).genericForms type).findSome? fun form => blockOf? form.signature) :=
    List.findSome?_append
  rcases exists_named_of_class_mem h with
    hself | ⟨isConst, name, isConst', name', htype', hresolved⟩
  · refine ⟨classBlock, ?_, .inl ?_⟩
    · rw [hfirst, ownForms, List.findSome?_cons, hself, hclass]
      rfl
    · refine (imtypeOut_of_mem htypedefs htype h hclass).resolve_right ?_ |>.2
      exact fun henum => absurd (congrArg CxxType.root henum.1) (by decide)
  · have hnamed : ∀ form ∈ ownForms decls type,
        ∃ isConst name, form = .base isConst (.named name) := by
      intro form hform
      simp only [ownForms, List.mem_cons, List.not_mem_nil, or_false] at hform
      rcases hform with rfl | rfl | rfl
      · exact ⟨isConst, name, htype'⟩
      · exact ⟨isConst', name', hresolved⟩
      · exact ⟨false, name', by rw [hresolved]; rfl⟩
    rw [hfirst]
    cases hown : (ownForms decls type).findSome? fun form => blockOf? form.signature with
    | some block => exact ⟨block, rfl, imtypeOut_of_ownForms htypedefs htype hnamed hown⟩
    | none =>
      have hgeneric : .named genericClass ∈ (builtin decls).genericForms type :=
        (List.mem_append.1 h).resolve_left fun hmem => hsome hmem hown
      obtain ⟨block, hblock⟩ := Option.ne_none_iff_exists'.1 (hsome hgeneric)
      exact ⟨block, hblock, .inl (imtypeOut_of_genericForms htypedefs htype hresolved hgeneric
        hblock)⟩

end

end Sources

namespace Lookup

variable {decls : Declarations} {type : CxxType} {state state' : LookupState}

/-- What a lookup that misses is answered with. -/
def missed (need : Need) (type : CxxType) : Option Typemap :=
  match need with
  | .optional => none
  | .required => some { code := placeholderName type }

/-- The answer when the store has `found`. -/
def answered (decls : Declarations) (need : Need) (type : CxxType) :
    Option Typemap → Option Typemap
  | some typemap => some (named (.builtin decls) type typemap)
  | none => missed need type

/-- A request for the type that an argument is passed with, or a result with the suffix `out`. -/
def typeRequest (operation : String) (suffix : Option String) (type : CxxType) (need : Need)
    (location : Location) : Request where
  operation := operation
  suffix := suffix
  type := type
  need := need
  location := location

/-- The answer to a request for a type that is passed. -/
def typeAnswer (decls : Declarations) (state : LookupState) (request : Request) : Option Typemap :=
  ((find (.builtin decls) request).run state).1

/-- The answers for the two sides of a call agree: both are misses, or they are types that are
passed in the same way. Behind the Fortran type stands the mark of an argument or nothing. -/
def Agree (missed : Option Typemap) (mark : String) (cAnswer fortranAnswer : Option Typemap) :
    Prop :=
  (cAnswer = missed ∧ fortranAnswer = missed) ∨
    ∃ cType fortranType, Corresponds cType fortranType ∧ cAnswer = some { code := cType } ∧
      fortranAnswer = some { code := fortranType ++ mark }

theorem typeAnswer_eq {operation : String} {suffix : Option String} {need : Need}
    {location : Location} {operations : List String} (hcolon : ':' ∉ operation.toList)
    (htype : type.IsSpelled) (hs : state.Sound (.builtin decls))
    (hoperations : (typeRequest operation suffix type need location).operations = operations) :
    typeAnswer decls state (typeRequest operation suffix type need location) =
      answered decls need type ((Sources.builtin decls).search? operations type) := by
  have hplain : (typeRequest operation suffix type need location).IsPlain := ⟨hcolon, htype⟩
  have hattached : (typeRequest operation suffix type need location).attached? = none := by
    cases suffix <;> rfl
  rw [typeAnswer, (find_ensures hplain state hs).1, answer?, hattached, hoperations]
  dsimp only [typeRequest]
  cases (Sources.builtin decls).search? operations type <;> cases need <;> rfl

theorem search?_pair (sources : Sources) (special operation : String) (type : CxxType) :
    sources.search? [special, operation] type =
      (sources.search? [special] type).or (sources.search? [operation] type) := by
  simp only [Sources.search?, List.findSome?_cons, List.findSome?_nil]
  split <;> rfl

/-- A type that a block has for a call is the answer as it is. -/
theorem answered_of_mem {block : Block} (hblock : block ∈ TypemapTable.blocks) {operation : String}
    (hoperation : operation ∈ TypemapTable.typeOperations) {typemap : Typemap}
    (htypemap : block.typemap? operation = some typemap) (need : Need) :
    answered decls need type (block.typemap? operation) = some typemap := by
  have hdollar := TypemapTable.dollar_notMem block hblock operation hoperation typemap htypemap
  rw [htypemap, answered, named, TypemapTable.mentions_classToken hdollar]
  rfl

section

variable (htypedefs : decls.HasSpelledTypedefs) (htype : type.IsSpelled)
  (hvoid : ¬decls.ResolvesToVoid type) (hs : state.Sound (.builtin decls))
  (hs' : state'.Sound (.builtin decls)) (need : Need) (location : Location)

include htypedefs htype hvoid

/-- The first block of a type has types that are passed in the same way. -/
theorem hasTypes_of_firstBlock? {block : Block}
    (hfirst : Sources.firstBlock? decls type = some block) :
    block ∈ TypemapTable.blocks ∧ ∃ cType fortranType, block.HasTypes cType fortranType := by
  obtain ⟨form, hform, hblock⟩ := List.exists_of_findSome?_eq_some hfirst
  exact ⟨(TypemapTable.mem_of_blockOf? hblock).1,
    Sources.exists_hasTypes htypedefs htype hvoid hform hblock⟩

include hs

/-- The C type of a result is the one that the store has for results, or the one of an argument. -/
theorem typeAnswer_ctypeOut :
    typeAnswer decls state (typeRequest "ctype" (some "out") type need location) =
      answered decls need type (((Sources.builtin decls).search? ["ctype:out"] type).or
        ((Sources.firstBlock? decls type).bind (·.typemap? "ctype"))) := by
  have hspecial : "ctype" ++ ":" ++ "out" = "ctype:out" := by decide
  have hoperations : (typeRequest "ctype" (some "out") type need location).operations =
      ["ctype:out", "ctype"] := congrArg (· :: ["ctype"]) hspecial
  rw [typeAnswer_eq (by decide) htype hs hoperations, search?_pair,
    Sources.search?_types htypedefs htype hvoid (.head _)]

/-- The Fortran type of a result is the one that its first block has. -/
theorem typeAnswer_imtypeOut :
    typeAnswer decls state (typeRequest "imtype" (some "out") type need location) =
      answered decls need type (((Sources.firstBlock? decls type).bind
        (·.typemap? "imtype:out")).or ((Sources.firstBlock? decls type).bind
          (·.typemap? "imtype"))) := by
  have hspecial : "imtype" ++ ":" ++ "out" = "imtype:out" := by decide
  have hoperations : (typeRequest "imtype" (some "out") type need location).operations =
      ["imtype:out", "imtype"] := congrArg (· :: ["imtype"]) hspecial
  rw [typeAnswer_eq (by decide) htype hs hoperations, search?_pair,
    Sources.search?_types htypedefs htype hvoid (.tail _ (.head _)),
    Sources.search?_types htypedefs htype hvoid (.tail _ (.tail _ (.head _)))]

include hs'

/-- The two sides of an argument agree. -/
theorem types_agree_argument : Agree (missed need type) ", value"
    (typeAnswer decls state (typeRequest "ctype" none type need location))
    (typeAnswer decls state' (typeRequest "imtype" none type need location)) := by
  have hctype : (typeRequest "ctype" none type need location).operations = ["ctype"] := rfl
  have himtype : (typeRequest "imtype" none type need location).operations = ["imtype"] := rfl
  rw [typeAnswer_eq (by decide) htype hs hctype, typeAnswer_eq (by decide) htype hs' himtype,
    Sources.search?_types htypedefs htype hvoid (.head _),
    Sources.search?_types htypedefs htype hvoid (.tail _ (.head _))]
  cases hfirst : Sources.firstBlock? decls type with
  | none => exact .inl ⟨rfl, rfl⟩
  | some block =>
    obtain ⟨hblock, cType, fortranType, htypes⟩ :=
      hasTypes_of_firstBlock? htypedefs htype hvoid hfirst
    rw [Option.bind_some, Option.bind_some, answered_of_mem hblock (by decide) htypes.ctype,
      answered_of_mem hblock (by decide) htypes.imtype]
    exact .inr ⟨cType, fortranType, htypes.corresponds, rfl, rfl⟩

/-- The two sides of a result agree, unless it has the name of the generic enum. -/
theorem types_agree_result :
    Agree (missed need type) ""
      (typeAnswer decls state (typeRequest "ctype" (some "out") type need location))
      (typeAnswer decls state' (typeRequest "imtype" (some "out") type need location)) ∨
    ((type = .named genericEnumeration ∨
        (decls.resolveOrKeep type).withoutQualifiers = .named genericEnumeration) ∧
      typeAnswer decls state (typeRequest "ctype" (some "out") type need location) =
        some { code := "void *" } ∧
      typeAnswer decls state' (typeRequest "imtype" (some "out") type need location) =
        some { code := "integer(C_INT)" }) := by
  rw [typeAnswer_ctypeOut htypedefs htype hvoid hs, typeAnswer_imtypeOut htypedefs htype hvoid hs']
  cases hfirst : Sources.firstBlock? decls type with
  | none =>
    rcases Sources.search?_ctypeOut htypedefs htype with hnone | ⟨-, hclass⟩
    · rw [hnone]
      exact .inl (.inl ⟨rfl, rfl⟩)
    · obtain ⟨block, hblock, -⟩ := Sources.imtypeOut_of_class_mem htypedefs htype hclass
      cases hfirst.symm.trans hblock
  | some block =>
    obtain ⟨hblock, cType, fortranType, htypes⟩ :=
      hasTypes_of_firstBlock? htypedefs htype hvoid hfirst
    have hfortran : answered decls need type ((block.typemap? "imtype:out").or
        (block.typemap? "imtype")) = some { code := fortranType } := by
      have hanswer : answered decls need type (block.typemap? "imtype:out") = _ :=
        answered_of_mem hblock (by decide) htypes.imtypeOut need
      rw [htypes.imtypeOut] at hanswer
      rw [htypes.imtypeOut, Option.some_or, hanswer]
    rw [Option.bind_some, Option.bind_some, Option.bind_some, hfortran]
    rcases Sources.search?_ctypeOut htypedefs htype with hnone | ⟨hpointer, hclass⟩
    · rw [hnone, Option.none_or, answered_of_mem hblock (by decide) htypes.ctype]
      exact .inl (.inr ⟨cType, fortranType, htypes.corresponds, rfl, by rw [String.append_empty]⟩)
    · have hanswer : answered decls need type (some { code := "void *" }) =
          some { code := "void *" } := by
        rw [answered, named, TypemapTable.mentions_classToken (by decide)]
        rfl
      rw [hpointer, Option.some_or, hanswer]
      obtain ⟨block', hblock', himtypeOut⟩ :=
        Sources.imtypeOut_of_class_mem htypedefs htype hclass
      obtain rfl := Option.some.inj (hfirst.symm.trans hblock')
      rw [htypes.imtypeOut] at himtypeOut
      rcases himtypeOut with himtypeOut | ⟨himtypeOut, hreserved⟩
      · cases himtypeOut
        exact .inl (.inr ⟨_, _, TypemapTable.corresponds_pointer, rfl, by rw [String.append_empty]⟩)
      · exact .inr ⟨hreserved, rfl, himtypeOut⟩

/-- **Both sides of a call agree.** Whatever was looked up before, the C type and the Fortran type
of an argument are both missed or are passed in the same way, and so are those of a result. Only for
a result whose type has the name of the generic enum the C side may have a pointer to a class and
the Fortran side an enum. -/
theorem types_agree :
    Agree (missed need type) ", value"
      (typeAnswer decls state (typeRequest "ctype" none type need location))
      (typeAnswer decls state' (typeRequest "imtype" none type need location)) ∧
    (Agree (missed need type) ""
        (typeAnswer decls state (typeRequest "ctype" (some "out") type need location))
        (typeAnswer decls state' (typeRequest "imtype" (some "out") type need location)) ∨
      ((type = .named genericEnumeration ∨
          (decls.resolveOrKeep type).withoutQualifiers = .named genericEnumeration) ∧
        typeAnswer decls state (typeRequest "ctype" (some "out") type need location) =
          some { code := "void *" } ∧
        typeAnswer decls state' (typeRequest "imtype" (some "out") type need location) =
          some { code := "integer(C_INT)" })) :=
  ⟨types_agree_argument htypedefs htype hvoid hs hs' need location,
    types_agree_result htypedefs htype hvoid hs hs' need location⟩

end

theorem types_agree_of_gadget :
    let decls : Declarations := { name := "" }
    let type : CxxType := .named "Gadget"
    decls.HasSpelledTypedefs ∧ type.IsSpelled ∧ ¬decls.ResolvesToVoid type ∧
      Agree (missed .required type) ", value"
        (typeAnswer decls {} (typeRequest "ctype" none type .required {}))
        (typeAnswer decls {} (typeRequest "imtype" none type .required {})) ∧
      Agree (missed .required type) ""
        (typeAnswer decls {} (typeRequest "ctype" (some "out") type .required {}))
        (typeAnswer decls {} (typeRequest "imtype" (some "out") type .required {})) := by
  intro decls type
  have hself : decls.resolve type = .ok type := Declarations.resolve_of_isResolved fun _ _ => rfl
  have htypedefs : decls.HasSpelledTypedefs := nofun
  have htype : type.IsSpelled := ⟨"Gadget", by decide +kernel⟩
  have hvoid : ¬decls.ResolvesToVoid type := by
    rintro ⟨resolved, hresolve, hresolved⟩
    cases hself.symm.trans hresolve
    cases hresolved
  have hsound := LookupState.sound_empty (.builtin decls)
  obtain ⟨hargument, hresult⟩ :=
    types_agree htypedefs htype hvoid hsound hsound .required {}
  refine ⟨htypedefs, htype, hvoid, hargument, hresult.resolve_right ?_⟩
  have hname : type ≠ .named genericEnumeration := by decide
  rw [Declarations.resolveOrKeep_of_resolve hself]
  rintro ⟨hreserved | hreserved, -⟩
  · exact hname hreserved
  · exact hname hreserved

/-- Answers that are no misses and not passed in the same way do not agree. -/
theorem not_agree {missed cAnswer fortranAnswer : Option Typemap}
    {mark cType fortranType code : String} (hcAnswer : cAnswer = some { code := cType })
    (hfortranAnswer : fortranAnswer = some { code })
    (hcode : code = fortranType ++ mark) (hmissed : missed ≠ some { code := cType })
    (h : ¬Corresponds cType fortranType) : ¬Agree missed mark cAnswer fortranAnswer := by
  subst hcAnswer hfortranAnswer hcode
  rintro (⟨hcType, -⟩ | ⟨_, other, hcorresponds, hcType, hfortranType⟩)
  · exact hmissed hcType.symm
  · cases hcType
    obtain rfl : fortranType = other :=
      (String.append_left_inj mark).1 (congrArg Typemap.code (Option.some.inj hfortranType))
    exact h hcorresponds

/-- A name that is not declared does not stand for `void`. -/
theorem not_resolvesToVoid_named (name : String) :
    ¬({ name := "" } : Declarations).ResolvesToVoid (.named name) := by
  rintro ⟨resolved, hresolve, hresolved⟩
  have hself : ({ name := "" } : Declarations).resolve (.named name) = .ok (.named name) :=
    Declarations.resolve_of_isResolved fun _ _ => rfl
  cases hself.symm.trans hresolve
  cases hresolved

/-- The answers for names that are written like the generic enum or like a builtin: for results with
the names `SWIGENUM` and `int`, and for a parameter with the name `void`. -/
theorem typeAnswers_of_names :
    let answer operation suffix name :=
      typeAnswer { name := "" } {} (typeRequest operation suffix (.named name) .required {})
    answer "ctype" (some "out") "SWIGENUM" = some { code := "void *" } ∧
    answer "imtype" (some "out") "SWIGENUM" = some { code := "integer(C_INT)" } ∧
    answer "ctype" (some "out") "int" = some { code := "void *" } ∧
    answer "imtype" (some "out") "int" = some { code := "integer(C_INT)" } ∧
    answer "ctype" none "void" = some { code := "void" } ∧
    answer "imtype" none "void" = some { code := "type(C_PTR), value" } := by
  simp only [typeAnswer, Sources.builtin_eq]
  decide +kernel

/-- **Both sides of a call may disagree** about a result whose class has the name of the generic
enum. They may also disagree about a type that no spelling names: a class with the name of a builtin
as a result, or as a parameter. -/
theorem types_disagree :
    let decls : Declarations := { name := "" }
    let answer operation suffix name :=
      typeAnswer decls {} (typeRequest operation suffix (.named name) .required {})
    decls.HasSpelledTypedefs ∧
    (CxxType.IsSpelled (.named "SWIGENUM") ∧ ¬decls.ResolvesToVoid (.named "SWIGENUM") ∧
      answer "ctype" (some "out") "SWIGENUM" = some { code := "void *" } ∧
      answer "imtype" (some "out") "SWIGENUM" = some { code := "integer(C_INT)" } ∧
      ¬Agree (missed .required (.named "SWIGENUM")) "" (answer "ctype" (some "out") "SWIGENUM")
        (answer "imtype" (some "out") "SWIGENUM")) ∧
    (¬CxxType.IsSpelled (.named "int") ∧ ¬decls.ResolvesToVoid (.named "int") ∧
      answer "ctype" (some "out") "int" = some { code := "void *" } ∧
      answer "imtype" (some "out") "int" = some { code := "integer(C_INT)" } ∧
      ¬Agree (missed .required (.named "int")) "" (answer "ctype" (some "out") "int")
        (answer "imtype" (some "out") "int")) ∧
    ¬CxxType.IsSpelled (.named "void") ∧ ¬decls.ResolvesToVoid (.named "void") ∧
      answer "ctype" none "void" = some { code := "void" } ∧
      answer "imtype" none "void" = some { code := "type(C_PTR), value" } ∧
      ¬Agree (missed .required (.named "void")) ", value" (answer "ctype" none "void")
        (answer "imtype" none "void") := by
  intro decls answer
  have hpointer : ¬Corresponds "void *" "integer(C_INT)" := by decide +kernel
  have hvoid : ¬Corresponds "void" "type(C_PTR)" := by decide +kernel
  have hunspelled (name : String) (h : Builtin.ofWords? [name] ≠ none) :
      ¬CxxType.IsSpelled (.named name) := fun hspelled => h (CxxType.isSpelled_iff.1 hspelled).2.2
  obtain ⟨hc, hf, hcInt, hfInt, hcVoid, hfVoid⟩ := typeAnswers_of_names
  refine ⟨nofun, ⟨⟨"SWIGENUM", by decide +kernel⟩, not_resolvesToVoid_named _, hc, hf, ?_⟩,
    ⟨hunspelled "int" (by decide), not_resolvesToVoid_named _, hcInt, hfInt, ?_⟩,
    hunspelled "void" (by decide), not_resolvesToVoid_named _, hcVoid, hfVoid, ?_⟩
  · exact not_agree hc hf (by decide) (by decide +kernel) hpointer
  · exact not_agree hcInt hfInt (by decide) (by decide +kernel) hpointer
  · exact not_agree hcVoid hfVoid (by decide) (by decide +kernel) hvoid

end Lookup

end FortranBindings
