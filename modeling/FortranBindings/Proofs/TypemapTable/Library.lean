import Mathlib.Data.List.Nodup
import FortranBindings.TypemapTable.Library

/-!
# What the built-in typemaps are

The built-in table is entered block by block, each block with the code of all operations on one
type (`TypemapTable.blocks`). No two blocks are for types with the same signature and no block has
two entries for one operation, so that a lookup in the table is a lookup in the block of its
signature (`TypemapTable.lookup_fortran`).
-/

namespace FortranBindings

/-- A base by itself, or behind a pointer or a reference that leads to it. -/
inductive Form
  | value
  | pointer (isConst : Bool)
  | reference (isConst : Bool)
  deriving DecidableEq

/-- A base in a form. -/
def Form.type (base : CxxType.Base) : Form → CxxType
  | value => .base false base
  | pointer isConst => .pointer (.base isConst base)
  | reference isConst => .lvalueReference (.base isConst base)

@[simp] theorem Form.root_type (base : CxxType.Base) (form : Form) :
    (form.type base).root = base := by
  cases form <;> rfl

@[simp] theorem Form.replaceBase_type (base base' : CxxType.Base) (form : Form) :
    (form.type base).replaceBase (.base false base') = form.type base' := by
  rcases form with _ | ⟨_ | _⟩ | ⟨_ | _⟩ <;> rfl

namespace TypemapTable

/-- The code of all operations on one type. -/
structure Block where
  type : CxxType
  entries : List (String × String)

/-- Enter a block. -/
def enter (table : TypemapTable) (block : Block) : TypemapTable :=
  table.codes block.type block.entries

/-- The blocks of a builtin that holds a value. -/
def scalarBlocks (scalar : Builtin × String) : List Block :=
  let base := CxxType.Base.builtin scalar.1
  let byValue := scalarValueCodes scalar.1.spelling scalar.2
  let byPointer isConst := scalarPointerCodes isConst scalar.1.spelling scalar.2
  [⟨Form.value.type base, byValue ++ [("in", castInput), ("out", "$result = $1;")]⟩,
    ⟨(Form.reference true).type base,
      byValue ++ [("in", "$1 = &$input;"), ("out", "$result = *$1;")]⟩,
    ⟨(Form.pointer false).type base, byPointer false⟩,
    ⟨(Form.reference false).type base, byPointer false⟩,
    ⟨(Form.pointer true).type base, byPointer true⟩]

/-- The blocks of `void` and of pointers to it. -/
def voidBlocks : List Block := [
  ⟨.void, [("ctype", "void"), ("imtype:out", ""), ("ftype:out", ""), ("out", ""),
    ("fout", "call $imcall")]⟩,
  ⟨(Form.pointer false).type (.builtin .void), voidPointerCodes "void *"⟩,
  ⟨(Form.pointer true).type (.builtin .void), voidPointerCodes "const void *"⟩]

/-- The blocks of classes. -/
def classBlocks : List Block :=
  let base := CxxType.Base.named genericClass
  let mutableCodes := classCodes ++ [("ctype", "void *"), ("out", "$result = (void *)$1;")]
  let constCodes :=
    classCodes ++ [("ctype", "const void *"), ("out", "$result = (const void *)$1;")]
  [⟨Form.value.type base, classCodes ++ [("ctype", "const void *"), ("ctype:out", "void *"),
      ("out", "$result = new $1_basetype($1);"),
      ("fdata", "type(C_PTR), public :: swigptr = C_NULL_PTR")]⟩,
    ⟨(Form.pointer false).type base, mutableCodes ++ [("fcreate", "self%swigptr = $imcall"),
      ("frelease", "call $imcall\nself%swigptr = C_NULL_PTR")]⟩,
    ⟨(Form.pointer true).type base, constCodes⟩,
    ⟨(Form.reference false).type base, mutableCodes⟩,
    ⟨(Form.reference true).type base, constCodes⟩]

/-- The blocks of enums. -/
def enumerationBlocks : List Block :=
  let base := CxxType.Base.named genericEnumeration
  [⟨Form.value.type base,
      enumerationCodes ++ [("in", castInput), ("out", "$result = (int)$1;")]⟩,
    ⟨(Form.reference true).type base,
      enumerationCodes ++ [("in", "$1 = ($1_ltype)&$input;"), ("out", "$result = (int)*$1;")]⟩]

/-- The blocks of the built-in table, in the order they are entered. -/
def blocks : List Block :=
  scalarTypes.flatMap scalarBlocks ++ voidBlocks ++ classBlocks ++ enumerationBlocks

theorem addScalar_eq_foldl (table : TypemapTable) (scalar : Builtin × String) :
    table.addScalar scalar = (scalarBlocks scalar).foldl enter table := by
  simp only [addScalar, scalarBlocks, List.foldl_cons, List.foldl_nil, enter, Form.type,
    CxxType.builtin, CxxType.withConst]

theorem addVoid_eq_foldl (table : TypemapTable) :
    table.addVoid = voidBlocks.foldl enter table := by
  simp only [addVoid, voidBlocks, List.foldl_cons, List.foldl_nil, enter, Form.type,
    CxxType.void, CxxType.builtin, CxxType.withConst]

theorem addClasses_eq_foldl (table : TypemapTable) :
    table.addClasses = classBlocks.foldl enter table := by
  simp only [addClasses, classBlocks, List.foldl_cons, List.foldl_nil, enter, Form.type,
    CxxType.named, CxxType.withConst]

theorem addEnumerations_eq_foldl (table : TypemapTable) :
    table.addEnumerations = enumerationBlocks.foldl enter table := by
  simp only [addEnumerations, enumerationBlocks, List.foldl_cons, List.foldl_nil, enter, Form.type,
    CxxType.named, CxxType.withConst]

/-- The built-in table is entered block by block. -/
theorem fortran_eq_foldl : fortran = blocks.foldl enter {} := by
  have hscalars : addScalar = fun table scalar => (scalarBlocks scalar).foldl enter table :=
    funext fun table => funext fun scalar => addScalar_eq_foldl table scalar
  rw [fortran, addEnumerations_eq_foldl, addClasses_eq_foldl, addVoid_eq_foldl, hscalars,
    ← List.foldl_flatMap, blocks, List.foldl_append, List.foldl_append, List.foldl_append]

/-! ## Lookups -/

variable {operation signature : String}

theorem lookup_insert (table : TypemapTable) (entered : String) (type : CxxType)
    (typemap : Typemap) :
    (table.insert entered type typemap).lookup operation signature =
      if operation = entered ∧ signature = type.signature then some typemap
      else table.lookup operation signature := by
  unfold lookup insert ofOperation
  rw [Dict.find?_insert]
  by_cases hop : operation = entered
  · subst hop
    have hempty : ({} : Dict Typemap).find? signature = none := rfl
    cases table.operations.find? operation <;> simp [Dict.find?_insert, hempty]
  · simp [hop]

theorem lookup_code (table : TypemapTable) (entered : String) (type : CxxType) (text : String) :
    (table.code entered type text).lookup operation signature =
      if operation = entered ∧ signature = type.signature then some { code := text }
      else table.lookup operation signature :=
  lookup_insert ..

/-- Entering the codes of a type changes the lookups with its signature only. -/
theorem lookup_codes (table : TypemapTable) (type : CxxType) {entries : List (String × String)}
    (hnodup : (entries.map (·.1)).Nodup) :
    (table.codes type entries).lookup operation signature =
      if signature = type.signature then
        ((entries.lookup operation).map fun code => { code }).or (table.lookup operation signature)
      else table.lookup operation signature := by
  induction entries generalizing table with
  | nil => simp [codes]
  | cons entry entries ih =>
    obtain ⟨entered, text⟩ := entry
    rw [List.map_cons, List.nodup_cons] at hnodup
    have hcodes : table.codes type ((entered, text) :: entries) =
        (table.code entered type text).codes type entries := rfl
    rw [hcodes, ih _ hnodup.2, lookup_code, Dict.lookup_cons_eq_ite]
    by_cases hsignature : signature = type.signature
    · by_cases hop : operation = entered
      · subst hop
        have hnone : entries.lookup operation = none := by
          rw [List.lookup_eq_none_iff]
          intro pair hpair
          rw [bne_iff_ne]
          rintro rfl
          exact hnodup.1 (List.mem_map.2 ⟨pair, hpair, rfl⟩)
        simp [hsignature, hnone]
      · simp [hsignature, hop]
    · simp [hsignature]

/-- Where no signature and no operation comes twice, blocks that are entered into a table count
before what is in it already. -/
theorem lookup_foldl_enter (table : TypemapTable) {blocks : List Block}
    (hsignatures : (blocks.map (·.type.signature)).Nodup)
    (hoperations : ∀ block ∈ blocks, (block.entries.map (·.1)).Nodup) :
    (blocks.foldl enter table).lookup operation signature =
      ((blocks.find? (·.type.signature = signature)).bind fun block =>
        (block.entries.lookup operation).map fun code => { code }).or
          (table.lookup operation signature) := by
  induction blocks generalizing table with
  | nil => rfl
  | cons block blocks ih =>
    rw [List.map_cons, List.nodup_cons] at hsignatures
    rw [List.foldl_cons, ih _ hsignatures.2 fun b hb => hoperations b (List.mem_cons_of_mem _ hb),
      enter, lookup_codes table block.type (hoperations block List.mem_cons_self),
      List.find?_cons]
    by_cases hsignature : signature = block.type.signature
    · subst hsignature
      have hnone : blocks.find? (·.type.signature = block.type.signature) = none := by
        rw [List.find?_eq_none]
        intro b hb heq
        exact hsignatures.1 (List.mem_map.2 ⟨b, hb, by simpa using heq⟩)
      simp [hnone]
    · simp [hsignature, Ne.symm hsignature]

theorem nodup_signatures_blocks : (blocks.map (·.type.signature)).Nodup := by
  decide +kernel

theorem nodup_operations_blocks : ∀ block ∈ blocks, (block.entries.map (·.1)).Nodup := by
  decide +kernel

/-- The block for a signature. -/
def blockOf? (signature : String) : Option Block :=
  blocks.find? (·.type.signature = signature)

/-- The code in a block for an operation. -/
def Block.typemap? (block : Block) (operation : String) : Option Typemap :=
  (block.entries.lookup operation).map fun code => { code }

/-- **A lookup in the built-in table** is a lookup in the block of its signature. -/
theorem lookup_fortran (operation signature : String) :
    fortran.lookup operation signature = (blockOf? signature).bind (·.typemap? operation) := by
  have hempty : ({} : TypemapTable).lookup operation signature = none := rfl
  rw [fortran_eq_foldl, lookup_foldl_enter {} nodup_signatures_blocks nodup_operations_blocks,
    hempty, Option.or_none]
  rfl

/-- A block is found by its signature. -/
theorem blockOf?_signature {block : Block} (h : block ∈ blocks) :
    blockOf? block.type.signature = some block := by
  obtain ⟨before, after, hblocks⟩ := List.append_of_mem h
  have hnodup := nodup_signatures_blocks
  rw [hblocks, List.map_append, List.map_cons, List.nodup_append] at hnodup
  have hbefore : before.find? (·.type.signature = block.type.signature) = none := by
    rw [List.find?_eq_none]
    intro other hother heq
    exact hnodup.2.2 _ (List.mem_map.2 ⟨other, hother, rfl⟩) _ List.mem_cons_self
      (by simpa using heq)
  rw [blockOf?, hblocks, List.find?_append, hbefore, Option.none_or]
  exact List.find?_cons_of_pos (by simp)

theorem mem_of_blockOf? {block : Block} (h : blockOf? signature = some block) :
    block ∈ blocks ∧ block.type.signature = signature :=
  ⟨List.mem_of_find?_eq_some h, by simpa using List.find?_some h⟩

/-! ## The blocks there are -/

/-- The base of the type has, in the form, a block that is not the one of `void`. -/
def HasBlock (base : CxxType.Base) (form : Form) : Prop :=
  ∃ block ∈ blocks, block.type = form.type base ∧ block.type ≠ .void

instance (base : CxxType.Base) (form : Form) : Decidable (HasBlock base form) :=
  inferInstanceAs (Decidable (∃ block ∈ blocks, _))

theorem hasBlock_scalar {kind : Builtin} (h : kind ≠ .void) (form : Form) :
    HasBlock (.builtin kind) form := by
  have hscalar : ∃ scalar ∈ scalarTypes, scalar.1 = kind := by
    cases kind <;> first | exact absurd rfl h | decide
  obtain ⟨scalar, hscalar, rfl⟩ := hscalar
  have hblock : ∃ block ∈ scalarBlocks scalar, block.type = form.type (.builtin scalar.1) := by
    rcases form with _ | ⟨_ | _⟩ | ⟨_ | _⟩ <;> simp [scalarBlocks]
  obtain ⟨block, hblock, htype⟩ := hblock
  have hmem : block ∈ blocks :=
    List.mem_append_left _ (List.mem_append_left _ (List.mem_append_left _
      (List.mem_flatMap.2 ⟨scalar, hscalar, hblock⟩)))
  refine ⟨block, hmem, htype, fun hvoid => h ?_⟩
  have hroot := congrArg CxxType.root (htype.symm.trans hvoid)
  rw [Form.root_type] at hroot
  exact CxxType.Base.builtin.inj hroot

theorem hasBlock_voidPointer (isConst : Bool) : HasBlock (.builtin .void) (.pointer isConst) := by
  cases isConst <;> decide +kernel

theorem hasBlock_class (form : Form) : HasBlock (.named genericClass) form := by
  rcases form with _ | ⟨_ | _⟩ | ⟨_ | _⟩ <;> decide +kernel

theorem hasBlock_enumeration {form : Form} (h : form = .value ∨ form = .reference true) :
    HasBlock (.named genericEnumeration) form := by
  rcases h with rfl | rfl <;> decide +kernel

/-- The operations that every block has code for, apart from the one of `void`. -/
def commonOperations : List String :=
  ["ctype", "imtype", "imtype:out", "ftype", "ftype:out", "in", "out", "fin", "fout"]

/-- The operations that the block of `void` has code for: those on results. -/
def resultOperations : List String :=
  ["ctype", "imtype:out", "ftype:out", "out", "fout"]

theorem resultOperations_subset : resultOperations ⊆ commonOperations := by
  decide

theorem exists_voidBlock : ∃ block ∈ blocks, block.type = .void ∧
    ∀ operation ∈ resultOperations, (block.typemap? operation).isSome := by
  decide +kernel

theorem isSome_common : ∀ block ∈ blocks, block.type ≠ .void → ∀ operation ∈ commonOperations,
    (block.typemap? operation).isSome := by
  decide +kernel

end TypemapTable

end FortranBindings
