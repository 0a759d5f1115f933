import FortranBindings.Declarations.Document
import FortranBindings.Proofs.Decl.RoundTrip
import FortranBindings.Proofs.Generator.Settled

/-!
# Types in documents can be read

A document gives the types of declarations by their spellings. So all types of the declarations that
were read from a document can be read from spellings (`Declarations.isSpelled_of_ofDocument`).
-/

namespace FortranBindings

open Json

theorem Parameter.isSpelled_of_ofJson {document : Json} {parameter : Parameter}
    (h : ofJson document = .ok parameter) : parameter.type.IsSpelled := by
  refine Record.read_induct (fun p => p.type.IsSpelled) ?_ CxxType.isSpelled_void h
  simp only [record, List.forall_mem_cons]
  exact ⟨Field.keeps_of fun _ _ _ _ hvalue => hvalue,
    Field.keeps_of fun _ _ hread _ _ =>
      CxxType.isSpelled_iff.2 (CxxType.wellSpelled_of_asType hread),
    Field.keeps_of fun _ _ _ _ hvalue => hvalue, List.forall_mem_nil _⟩

/-- The types of a callable in a document are read from spellings. -/
theorem Callable.isSpelled_of_ofJson {document : Json} {callable : Callable}
    (h : ofJson document = .ok callable) : callable.IsSpelled := by
  unfold ofJson at h
  split at h
  · obtain ⟨⟨read, others⟩, hread, h⟩ := Except.bind_eq_ok.1 h
    obtain ⟨kind, -, h⟩ := Except.bind_eq_ok.1 h
    cases h
    have hinitial : record.initial.IsSpelled :=
      ⟨fun _ hmem => absurd hmem List.not_mem_nil, CxxType.isSpelled_void⟩
    have hspelled : read.IsSpelled := by
      refine Record.inv_of_ofFields IsSpelled ?_ hinitial hread
      simp only [record, List.forall_mem_cons]
      have hother {β : Type} {key : String} {required : Bool} {decoder : Decoder β}
          {put : β → Callable → Callable} (hput : ∀ b c, (put b c).parameters = c.parameters ∧
            (put b c).result = c.result) :
          (Field.of key required decoder put).Keeps IsSpelled :=
        Field.keeps_of fun _ b _ c hc => by
          obtain ⟨hparameters, hresult⟩ := hput b c
          exact ⟨hparameters ▸ hc.parameters, hresult ▸ hc.result⟩
      refine ⟨hother fun _ _ => ⟨rfl, rfl⟩, hother fun _ _ => ⟨rfl, rfl⟩,
        hother fun _ _ => ⟨rfl, rfl⟩,
        Field.keeps_of fun _ _ hread _ hvalue => ⟨fun p hp => ?_, hvalue.result⟩,
        Field.keeps_of fun _ _ hread _ hvalue => ⟨hvalue.parameters, ?_⟩,
        hother fun _ _ => ⟨rfl, rfl⟩, hother fun _ _ => ⟨rfl, rfl⟩,
        hother fun _ _ => ⟨rfl, rfl⟩, hother fun _ _ => ⟨rfl, rfl⟩, List.forall_mem_nil _⟩
      · obtain ⟨element, helement⟩ := exists_of_mem_asList hread p hp
        exact Parameter.isSpelled_of_ofJson helement
      · exact CxxType.isSpelled_iff.2 (CxxType.wellSpelled_of_asType hread)
    exact ⟨hspelled.parameters, hspelled.result⟩
  · cases h

/-- The types of the members of a class in a document are read from spellings. -/
theorem Class.isSpelled_of_ofJson {document : Json} {cls : Class}
    (h : ofJson document = .ok cls) : ∀ member ∈ cls.members, member.IsSpelled := by
  have hinitial : ∀ m ∈ record.initial.members, m.IsSpelled :=
    fun _ hmem => absurd hmem List.not_mem_nil
  refine Record.read_induct (fun c => ∀ m ∈ c.members, m.IsSpelled) ?_ hinitial h
  simp only [record, List.forall_mem_cons]
  refine ⟨Field.keeps_of fun _ _ _ _ hvalue => hvalue, Field.keeps_of fun _ _ _ _ hvalue => hvalue,
    Field.keeps_of fun _ _ _ _ hvalue => hvalue, Field.keeps_of fun _ _ hread _ _ m hm => ?_,
    Field.keeps_of fun _ _ _ _ hvalue => hvalue, List.forall_mem_nil _⟩
  obtain ⟨element, helement⟩ := exists_of_mem_asList hread m hm
  exact Callable.isSpelled_of_ofJson helement

/-- Can the types of what the item declares be read from spellings? -/
def Item.IsSpelled : Item → Prop
  | function callable => callable.IsSpelled
  | cls c => ∀ member ∈ c.members, member.IsSpelled
  | enumeration _ => True

/-- The types of an item in a document are read from spellings. -/
theorem Item.isSpelled_of_ofJson {document : Json} {item : Item}
    (h : ofJson document = .ok item) : item.IsSpelled := by
  unfold ofJson at h
  split at h
  · obtain ⟨read, hread, h⟩ := Except.bind_eq_ok.1 h
    have hspelled : read.IsSpelled := by
      unfold ofTag at hread
      split at hread
      · obtain ⟨c, hc, rfl⟩ := Except.map_eq_ok.1 hread
        exact Class.isSpelled_of_ofJson hc
      · obtain ⟨e, -, rfl⟩ := Except.map_eq_ok.1 hread
        exact trivial
      · obtain ⟨callable, hcallable, rfl⟩ := Except.map_eq_ok.1 hread
        exact Callable.isSpelled_of_ofJson hcallable
      · cases hread
    split at h
    · cases h
      exact hspelled
    · cases h
  · cases h

theorem Json.Document.read_of_decode {α : Type} {document : Document} {read : Decoder α} {value : α}
    (h : document.decode read = .ok value) : read document.root = .ok value := by
  unfold decode at h
  split at h
  · next hread _ => exact hread.trans h
  · cases h
  · cases h

namespace Declarations

/-- Can the types of all declarations be read from spellings? -/
def IsSpelled (decls : Declarations) : Prop :=
  ∀ item ∈ decls.items, item.IsSpelled

/-- **The types in a document** are read from spellings. -/
theorem isSpelled_of_ofDocument {document : Document} {decls : Declarations}
    (h : ofDocument document = .ok decls) : decls.IsSpelled := by
  obtain ⟨read, hread, h⟩ := Except.bind_eq_ok.1 h
  have hitems : ∀ item ∈ read.items, item.IsSpelled := by
    have hvalue := Document.read_of_decode (Except.mapError_eq_ok.1 hread)
    have hinitial : ∀ item ∈ DeclarationsDocument.record.initial.items, item.IsSpelled :=
      fun _ hmem => absurd hmem List.not_mem_nil
    refine Record.read_induct (fun d => ∀ item ∈ d.items, item.IsSpelled) ?_ hinitial hvalue
    simp only [DeclarationsDocument.record, List.forall_mem_cons]
    refine ⟨Field.keeps_of fun _ _ _ _ hkept => hkept, Field.keeps_of fun _ _ _ _ hkept => hkept,
      Field.keeps_of fun _ _ _ _ hkept => hkept, Field.keeps_of fun _ _ _ _ hkept => hkept,
      Field.keeps_of fun _ _ hlist _ _ item hitem => ?_, List.forall_mem_nil _⟩
    obtain ⟨element, helement⟩ := exists_of_mem_asList hlist item hitem
    exact Item.isSpelled_of_ofJson helement
  split at h
  · cases h
  · cases h
    exact hitems

end Declarations

end FortranBindings
