import FortranBindings.Proofs.CxxType.Signature
import FortranBindings.Proofs.TypemapTable.Library
import FortranBindings.Template.Sources
import FortranBindings.Text.Template

/-!
# Types on both sides of a call

What a block of the built-in table has for the C type of an argument and what it has for its Fortran
type are passed in the same way (`TypemapTable.Corresponds`, `TypemapTable.exists_corresponds`).
Where a type is looked up with several signatures, both texts come from the first block there is
(`TypemapTable.findSome?_typemap?`).
-/

namespace FortranBindings.TypemapTable

/-- A C type and a Fortran type are passed in the same way: both are pointers, or they are the two
sides of a builtin. Enums are passed as the builtin `int`. -/
def Corresponds (cType fortranType : String) : Prop :=
  (cType.toList.getLast? = some '*' ↔ fortranType = "type(C_PTR)") ∧
    (cType.toList.getLast? ≠ some '*' →
      ∃ scalar ∈ scalarTypes, cType = scalar.1.spelling ∧ fortranType = scalar.2)

instance (cType fortranType : String) : Decidable (Corresponds cType fortranType) :=
  inferInstanceAs (Decidable (_ ∧ _))

/-- The texts are the C type of a block, and its Fortran types for a result and an argument. -/
structure Block.HasTypes (block : Block) (cType fortranType : String) : Prop where
  corresponds : Corresponds cType fortranType
  ctype : block.typemap? "ctype" = some { code := cType }
  imtype : block.typemap? "imtype" = some { code := fortranType ++ ", value" }
  imtypeOut : block.typemap? "imtype:out" = some { code := fortranType }

theorem Block.hasTypes_iff {block : Block} {cType fortranType : String} :
    block.HasTypes cType fortranType ↔ Corresponds cType fortranType ∧
      block.typemap? "ctype" = some { code := cType } ∧
      block.typemap? "imtype" = some { code := fortranType ++ ", value" } ∧
      block.typemap? "imtype:out" = some { code := fortranType } :=
  ⟨fun h => ⟨h.1, h.2, h.3, h.4⟩, fun h => ⟨h.1, h.2.1, h.2.2.1, h.2.2.2⟩⟩

instance (block : Block) (cType fortranType : String) :
    Decidable (block.HasTypes cType fortranType) :=
  decidable_of_iff _ Block.hasTypes_iff.symm

/-- The C type and the Fortran type of a block are passed in the same way. -/
theorem exists_hasTypes : ∀ block ∈ blocks, block.type ≠ .void →
    ∃ cType ∈ block.typemap? "ctype", ∃ fortranType ∈ block.typemap? "imtype:out",
      block.HasTypes cType.code fortranType.code := by
  decide +kernel

/-- The operations on the types that a call passes. -/
def typeOperations : List String := ["ctype", "ctype:out", "imtype", "imtype:out"]

/-- A text without a `$` mentions no class. -/
theorem mentions_classToken {text : String} (h : '$' ∉ text.toList) :
    Text.mentions text classToken = false := by
  have hoccurs : ∀ chars : List Char, '$' ∉ chars →
      Text.Template.occurs classToken.toList chars = false := by
    intro chars
    induction chars with
    | nil => exact fun _ => rfl
    | cons c chars ih =>
      intro hchars
      rw [List.mem_cons, not_or] at hchars
      rw [Text.Template.occurs, ih hchars.2, Bool.or_false]
      exact Bool.and_eq_false_iff.2 (.inl (beq_eq_false_iff_ne.2 hchars.1))
  exact hoccurs _ h

theorem dollar_notMem : ∀ block ∈ blocks, ∀ operation ∈ typeOperations,
    ∀ typemap ∈ block.typemap? operation, '$' ∉ typemap.code.toList := by
  decide +kernel

/-- Only for a class by value is the C type of a result another one than that of an argument. -/
theorem ctypeOut_iff : ∀ block ∈ blocks, block.typemap? "ctype:out" =
    if block.type = .named genericClass then some { code := "void *" } else none := by
  decide +kernel

/-- The generic blocks are the only ones for a name by itself. -/
theorem imtypeOut_of_named : ∀ block ∈ blocks, block.type.baseName?.isSome →
    block.type.isPointer = false → block.type.isReference = false →
    (block.type = .named genericClass ∧
        block.typemap? "imtype:out" = some { code := "type(C_PTR)" }) ∨
      (block.type = .named genericEnumeration ∧
        block.typemap? "imtype:out" = some { code := "integer(C_INT)" }) := by
  decide +kernel

theorem corresponds_pointer : Corresponds "void *" "type(C_PTR)" := by
  decide

instance : DecidablePred CxxType.Base.WellSpelled
  | .builtin _ => inferInstanceAs (Decidable True)
  | .named _ => inferInstanceAs (Decidable (_ ∧ _ ∧ _))
  | .enumeration _ => inferInstanceAs (Decidable (_ ∧ _))

theorem wellSpelled_root_blocks : ∀ block ∈ blocks, block.type.root.WellSpelled := by
  decide +kernel

end FortranBindings.TypemapTable
