import FortranBindings.ModuleSource
import FortranBindings.Proofs.Proxy.Literal
import FortranBindings.Proofs.Registry.Names

/-!
# Sources without a `$`

If no text in the parts of a module has a `$`, then the sources that are put together from them have
none (`ModuleParts.IsLiteral.isLiteral_cxxSource`, `ModuleParts.IsLiteral.isLiteral_fortranSource`).
-/

namespace FortranBindings

open Text

/-! ## Derived types -/

/-- No name in the groups has a `$`. -/
def Overloads.IsLiteral (overloads : Overloads) : Prop :=
  ∀ group ∈ overloads.entries, Text.IsLiteral group.1 ∧ AllLiteral group.2

namespace Overloads.IsLiteral

variable {overloads : Overloads}

theorem record (h : overloads.IsLiteral) {publicName variant : String}
    (hname : Text.IsLiteral publicName) (hvariant : Text.IsLiteral variant) :
    (overloads.record publicName variant).IsLiteral := by
  have hnew : AllLiteral [variant] := allLiteral_cons.2 ⟨hvariant, allLiteral_nil⟩
  intro group hgroup
  rcases Registry.mem_entries_upsert hgroup with hold | ⟨old, hold, rfl⟩ | rfl
  · exact h group hold
  · exact ⟨(h old hold).1, allLiteral_append.2 ⟨(h old hold).2, hnew⟩⟩
  · exact ⟨hname, hnew⟩

theorem isLiteral_genericBindings (h : overloads.IsLiteral) :
    Text.IsLiteral overloads.genericBindings := by
  refine isLiteral_join_map fun group hgroup => ?_
  have hvariants : Text.IsLiteral (", ".intercalate group.2) :=
    isLiteral_listed (h group hgroup).2
  simp only [isLiteral_append, (h group hgroup).1, hvariants, and_true]
  simp [Text.IsLiteral]

theorem isLiteral_moduleInterfaces (h : overloads.IsLiteral) :
    Text.IsLiteral overloads.moduleInterfaces := by
  refine isLiteral_join_map fun group hgroup => ?_
  have hvariants : Text.IsLiteral (", ".intercalate group.2) :=
    isLiteral_listed (h group hgroup).2
  simp only [isLiteral_append, (h group hgroup).1, hvariants, and_true]
  simp [Text.IsLiteral]

end Overloads.IsLiteral

/-- No text in the open class has a `$`. -/
structure OpenClass.IsLiteral (opened : OpenClass) : Prop where
  cls : opened.cls.IsLiteral
  name : Text.IsLiteral opened.name
  procedures : ∀ procedure ∈ opened.procedures,
    Text.IsLiteral procedure.name ∧ Text.IsLiteral procedure.routine
  overloads : opened.overloads.IsLiteral
  finalizer : ∀ routine ∈ opened.finalizer, Text.IsLiteral routine

namespace OpenClass.IsLiteral

variable {opened : OpenClass}

theorem bind (h : opened.IsLiteral) {binding : ProcedureBinding}
    (hbinding : Text.IsLiteral binding.name ∧ Text.IsLiteral binding.routine) :
    (opened.bind binding).IsLiteral where
  cls := h.cls
  name := h.name
  procedures := List.forall_mem_append.2 ⟨h.procedures, List.forall_mem_singleton.2 hbinding⟩
  overloads := h.overloads
  finalizer := h.finalizer

theorem bindOverload (h : opened.IsLiteral) {publicName name routine : String}
    (hpublic : Text.IsLiteral publicName) (hname : Text.IsLiteral name)
    (hroutine : Text.IsLiteral routine) :
    (opened.bindOverload publicName name routine).IsLiteral where
  cls := h.cls
  name := h.name
  procedures := List.forall_mem_append.2
    ⟨h.procedures, List.forall_mem_singleton.2 ⟨hname, hroutine⟩⟩
  overloads := h.overloads.record hpublic hname
  finalizer := h.finalizer

/-- The `contains` part of a derived type has no `$`. -/
theorem isLiteral_renderBindings (h : opened.IsLiteral) :
    Text.IsLiteral opened.renderBindings := by
  have hprocedures : Text.IsLiteral
      (String.join (opened.procedures.map ProcedureBinding.render)) := by
    refine isLiteral_join_map fun procedure hprocedure => ?_
    have hbinding := h.procedures procedure hprocedure
    have hmark : Text.IsLiteral
        (if procedure.isPrivate then "  procedure, private :: " else "  procedure :: ") := by
      split <;> simp [Text.IsLiteral]
    unfold ProcedureBinding.render
    simp only [isLiteral_append, hbinding, hmark, true_and, and_true]
    simp [Text.IsLiteral]
  have hfinalizer : Text.IsLiteral
      (opened.finalizer.elim "" fun routine => "  final :: " ++ routine ++ "\n") := by
    cases hroutine : opened.finalizer with
    | none => simp [Text.IsLiteral]
    | some routine =>
      rw [Option.elim_some]
      simp only [isLiteral_append, h.finalizer routine hroutine, and_true]
      simp [Text.IsLiteral]
  unfold renderBindings
  dsimp only
  split
  · simp [Text.IsLiteral]
  · simp only [isLiteral_append, hprocedures, h.overloads.isLiteral_genericBindings, hfinalizer,
      and_true]
    simp [Text.IsLiteral]

/-- The derived type of a class has no `$`. -/
theorem isLiteral_render (h : opened.IsLiteral) {data : List String} (hdata : AllLiteral data) :
    Text.IsLiteral (TypeBlock.derived opened data).render := by
  have hlines : Text.IsLiteral (indented "  " data) :=
    isLiteral_indented (by simp [Text.IsLiteral]) hdata
  unfold TypeBlock.render
  simp only [isLiteral_append, h.name, hlines, h.isLiteral_renderBindings, and_true]
  simp [Text.IsLiteral]

end OpenClass.IsLiteral

namespace TypeBlock

theorem isLiteral_render_shell {name : String} (hname : Text.IsLiteral name) {data : List String}
    (hdata : AllLiteral data) : Text.IsLiteral (shell name data).render := by
  have hlines : Text.IsLiteral (indented "  " data) :=
    isLiteral_indented (by simp [Text.IsLiteral]) hdata
  unfold render
  simp only [isLiteral_append, hname, hlines, and_true]
  simp [Text.IsLiteral]

theorem isLiteral_render_enumeration {enumerators : List (String × Int)}
    (h : ∀ e ∈ enumerators, Text.IsLiteral e.1) :
    Text.IsLiteral (enumeration enumerators).render := by
  have hlines : Text.IsLiteral (String.join (enumerators.map fun e =>
      "  enumerator :: " ++ e.1 ++ " = " ++ toString e.2 ++ "\n")) := by
    refine isLiteral_join_map fun e he => ?_
    simp only [isLiteral_append, h e he, isLiteral_intToString, and_true]
    simp [Text.IsLiteral]
  unfold render
  simp only [isLiteral_append, hlines, and_true]
  simp [Text.IsLiteral]

end TypeBlock

/-! ## Sources -/

/-- No text in the parts of a module has a `$`. -/
structure ModuleParts.IsLiteral (parts : ModuleParts) : Prop where
  wrappers : ∀ wrapper ∈ parts.wrappers, wrapper.IsLiteral
  interfaces : ∀ interface ∈ parts.interfaces, interface.IsLiteral
  publics : ∀ names ∈ parts.publics, AllLiteral names
  types : ∀ block ∈ parts.types, Text.IsLiteral block.render
  overloads : parts.overloads.IsLiteral
  routines : ∀ routine ∈ parts.routines, routine.IsLiteral

namespace ModuleParts

theorem isLiteral_precededBy {separator text : String} (hseparator : Text.IsLiteral separator)
    (h : Text.IsLiteral text) : Text.IsLiteral (precededBy separator text) := by
  unfold precededBy
  split
  · simp [Text.IsLiteral]
  · exact isLiteral_append.2 ⟨hseparator, h⟩

theorem isLiteral_includeLine {header : String} (h : Text.IsLiteral header) :
    Text.IsLiteral (includeLine header) := by
  unfold includeLine
  dsimp only
  split
  · simp only [isLiteral_append, h, and_true]
    simp [Text.IsLiteral]
  · simp only [isLiteral_append, h, and_true]
    simp [Text.IsLiteral]

theorem isLiteral_exportMacro : Text.IsLiteral exportMacro := by
  unfold exportMacro
  simp only [isLiteral_append]
  simp [Text.IsLiteral]

namespace IsLiteral

variable {parts : ModuleParts}

/-- The C++ source of a module has no `$`. -/
theorem isLiteral_cxxSource (h : parts.IsLiteral) {decls : Declarations}
    (hdecls : decls.IsLiteral) : Text.IsLiteral (parts.cxxSource decls) := by
  have hbreak : Text.IsLiteral "\n" := by simp [Text.IsLiteral]
  have hincludes : Text.IsLiteral (String.join (decls.includes.map includeLine)) :=
    isLiteral_join_map fun header hheader => isLiteral_includeLine (hdecls.includes header hheader)
  have hwrappers : Text.IsLiteral (String.join (parts.wrappers.map Wrapper.render)) :=
    isLiteral_join_map fun wrapper hw => (h.wrappers wrapper hw).isLiteral_render
  have hinit : Text.IsLiteral
      (String.join (decls.init.map fun code => withoutTrailingBlanks code ++ "\n")) :=
    isLiteral_join_map fun code hcode => isLiteral_append.2
      ⟨isLiteral_withoutTrailingBlanks (hdecls.init code hcode), hbreak⟩
  have hhead : Text.IsLiteral (if (String.join (decls.includes.map includeLine)).isEmpty then ""
      else String.join (decls.includes.map includeLine) ++ "\n") := by
    split
    · simp [Text.IsLiteral]
    · exact isLiteral_append.2 ⟨hincludes, hbreak⟩
  unfold cxxSource
  simp only [isLiteral_append, hhead, isLiteral_exportMacro, hwrappers,
    isLiteral_precededBy hbreak hinit, true_and, and_true]
  simp [Text.IsLiteral]

/-- The Fortran source of a module has no `$`. -/
theorem isLiteral_fortranSource (h : parts.IsLiteral) {config : Config}
    (hconfig : config.IsLiteral) {name : String} (hname : Text.IsLiteral name) :
    Text.IsLiteral (parts.fortranSource config name) := by
  have hbreak : Text.IsLiteral "\n" := by simp [Text.IsLiteral]
  have himports : Text.IsLiteral
      (String.join (config.imports.map fun other => " use " ++ other ++ "\n")) := by
    refine isLiteral_join_map fun other hother => ?_
    simp only [isLiteral_append, hconfig.imports other hother, and_true]
    simp [Text.IsLiteral]
  have hpublics : Text.IsLiteral (String.join (parts.publics.map fun names =>
      " public :: " ++ ", ".intercalate names ++ "\n")) := by
    refine isLiteral_join_map fun names hnames => ?_
    have hlist : Text.IsLiteral (", ".intercalate names) :=
      isLiteral_listed (h.publics names hnames)
    simp only [isLiteral_append, hlist, and_true]
    simp [Text.IsLiteral]
  have htypes : Text.IsLiteral (String.join (parts.types.map TypeBlock.render)) :=
    isLiteral_join_map h.types
  have hinterfaces : Text.IsLiteral (String.join (parts.interfaces.map BindInterface.render)) :=
    isLiteral_join_map fun interface hi => (h.interfaces interface hi).isLiteral_render
  have hroutines : Text.IsLiteral (String.join (parts.routines.map Routine.render)) :=
    isLiteral_join_map fun routine hr => (h.routines routine hr).isLiteral_render
  have hblock : Text.IsLiteral
      (if (String.join (parts.interfaces.map BindInterface.render)).isEmpty then ""
        else "\n interface\n" ++ String.join (parts.interfaces.map BindInterface.render) ++
          " end interface\n") := by
    split
    · simp [Text.IsLiteral]
    · simp only [isLiteral_append, hinterfaces, and_true]
      simp [Text.IsLiteral]
  have hcontains : Text.IsLiteral "\ncontains\n" := by simp [Text.IsLiteral]
  unfold fortranSource
  simp only [isLiteral_append, hname, himports, isLiteral_precededBy hbreak hpublics,
    isLiteral_precededBy hbreak htypes, hblock, isLiteral_precededBy hcontains hroutines,
    isLiteral_precededBy hbreak h.overloads.isLiteral_moduleInterfaces, and_true]
  simp [Text.IsLiteral]

end IsLiteral

end ModuleParts

end FortranBindings
