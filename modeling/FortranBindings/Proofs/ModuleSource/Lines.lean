import FortranBindings.ModuleSource

/-!
# The lines of a module

The sources of a module as lists of lines. Each wrapper, interface, type and routine has its own
lines (`Wrapper.lines`, `BindInterface.lines`, `TypeBlock.lines`, `Routine.lines`), and those of one
kind stand behind each other in one place of a source (`ModuleLines.cxx`, `ModuleLines.fortran`).
What is written out are these lines with a line break behind each
(`ModuleParts.cxxSource_eq_ofLines`, `ModuleParts.fortranSource_eq_ofLines`).
-/

namespace FortranBindings

namespace Text

variable {α : Type}

/-- A text of some lines, each with a line break behind. -/
def ofLines (lines : List String) : String :=
  String.join (lines.map fun line => line ++ "\n")

@[simp] theorem ofLines_nil : ofLines [] = "" := rfl

@[simp] theorem ofLines_cons (line : String) (lines : List String) :
    ofLines (line :: lines) = line ++ "\n" ++ ofLines lines :=
  String.join_cons

@[simp] theorem ofLines_append (lines more : List String) :
    ofLines (lines ++ more) = ofLines lines ++ ofLines more := by
  rw [ofLines, List.map_append, String.join_append]
  rfl

theorem ofLines_map (f : α → String) (xs : List α) :
    ofLines (xs.map f) = String.join (xs.map fun x => f x ++ "\n") := by
  rw [ofLines, List.map_map]
  rfl

/-- Texts of some lines each, behind each other, are the text of all the lines. -/
theorem join_map_eq_ofLines {f : α → String} {g : α → List String}
    (h : ∀ x, f x = ofLines (g x)) (xs : List α) :
    String.join (xs.map f) = ofLines (xs.flatMap g) := by
  induction xs with
  | nil => rfl
  | cons x xs ih => rw [List.map_cons, String.join_cons, List.flatMap_cons, ofLines_append, h, ih]

theorem ofLines_eq_empty {lines : List String} : ofLines lines = "" ↔ lines = [] := by
  cases lines <;> simp

/-- A text that is left out with some lines is the text of lines that are left out with them. -/
theorem ofLines_unless_nil {lines more : List String} {text : String} (h : text = ofLines more) :
    (if (ofLines lines).isEmpty then "" else text) =
      ofLines (if lines = [] then [] else more) := by
  rw [h, apply_ite ofLines]
  simp only [String.isEmpty_iff, ofLines_eq_empty]
  rfl

/-- Lines under a heading, or nothing if there are none. -/
def under (heading lines : List String) : List String :=
  if lines = [] then [] else heading ++ lines

theorem indented_eq_ofLines (indent : String) (lines : List String) :
    indented indent lines = ofLines (lines.map (indent ++ ·)) :=
  (ofLines_map _ _).symm

end Text

/-! ## Bridges -/

/-- The lines of a wrapper: its header, the variable for what is returned, the local variables, the
code behind a blank line, and what is returned. -/
def Wrapper.lines (wrapper : Wrapper) : List String :=
  let isFunction := wrapper.returnType ≠ "void"
  ["SWIGEXPORT " ++ wrapper.returnType ++ " " ++ wrapper.name ++ "(" ++
    ", ".intercalate (wrapper.arguments.map fun a => a.1 ++ " " ++ a.2) ++ ") \x7b"] ++
  (if isFunction then ["  " ++ wrapper.returnType ++ " fresult ;"] else []) ++
  (wrapper.locals.map fun l => "  " ++ l.1 ++ " " ++ l.2 ++ " ;") ++ [""] ++
  ((wrapper.input ++ wrapper.check ++ wrapper.action ++ wrapper.output ++ wrapper.argout ++
    wrapper.cleanup).map fun line => "  " ++ line) ++
  (if isFunction then ["  return (" ++ wrapper.returnType ++ ")fresult;"] else []) ++
  ["\x7d", ""]

theorem Wrapper.render_eq_ofLines (wrapper : Wrapper) :
    wrapper.render = Text.ofLines wrapper.lines := by
  have hlocals : String.join (wrapper.locals.map localLine) =
      Text.ofLines (wrapper.locals.map fun l => "  " ++ l.1 ++ " " ++ l.2 ++ " ;") := by
    rw [Text.ofLines_map]
    refine congrArg String.join (List.map_congr_left fun l _ => ?_)
    simp [← String.toList_inj, localLine]
  by_cases h : wrapper.returnType = "void" <;>
    simp [← String.toList_inj, render, lines, header, hlocals, localLine, isSubroutine, statements,
      h, voidName, Text.indented_eq_ofLines]

/-- The lines of an interface: its title, the name that the wrapper is linked under, and one
declaration for each argument and for the result. -/
def BindInterface.lines (interface : BindInterface) : List String :=
  let isFunction := interface.result.isSome
  [interface.kind ++ " " ++ interface.name ++ "(" ++
      ", ".intercalate (interface.arguments.map (·.1)) ++ ") &",
    "bind(C, name=\"" ++ interface.name ++ "\")" ++ if isFunction then " &" else ""] ++
  (if isFunction then ["result(fresult)"] else []) ++ ["use, intrinsic :: ISO_C_BINDING"] ++
  (interface.arguments.map fun a => a.2 ++ " :: " ++ a.1) ++
  (interface.result.toList.map fun type => type ++ " :: fresult") ++ ["end " ++ interface.kind]

theorem BindInterface.render_eq_ofLines (interface : BindInterface) :
    interface.render = Text.ofLines interface.lines := by
  cases h : interface.result <;>
    simp [← String.toList_inj, render, lines, title, declarations, h, Text.ofLines_map]

/-! ## Proxies -/

/-- The lines of a routine: its title, one declaration for each name, and the code. -/
def Routine.lines (routine : Routine) : List String :=
  let kind := if routine.isSubroutine then "subroutine" else "function"
  [kind ++ " " ++ routine.name ++ "(" ++ ", ".intercalate routine.dummyArguments ++ ")" ++
    if routine.isSubroutine then "" else " &"] ++
  (if routine.isSubroutine then [] else ["result(swig_result)"]) ++
  ["use, intrinsic :: ISO_C_BINDING"] ++
  (routine.declarations.map fun d => d.1 ++ " :: " ++ d.2) ++ routine.statements ++
  ["end " ++ kind, ""]

theorem Routine.render_eq_ofLines (routine : Routine) :
    routine.render = Text.ofLines routine.lines := by
  cases h : routine.isSubroutine <;>
    simp [← String.toList_inj, render, lines, resultName, h, Text.ofLines_map,
      Text.indented_eq_ofLines]

/-! ## Types -/

/-- The lines of the `contains` part of a derived type: one for each procedure, one for each generic
name, and one for the finalizer. -/
def OpenClass.bindingLines (opened : OpenClass) : List String :=
  Text.under [" contains"] (
    (opened.procedures.map fun p =>
      (if p.isPrivate then "  procedure, private :: " else "  procedure :: ") ++ p.name ++ " => " ++
        p.routine) ++
    (opened.overloads.entries.map fun group =>
      "  generic :: " ++ group.1 ++ " => " ++ ", ".intercalate group.2) ++
    opened.finalizer.toList.map fun routine => "  final :: " ++ routine)

theorem OpenClass.renderBindings_eq_ofLines (opened : OpenClass) :
    opened.renderBindings = Text.ofLines opened.bindingLines := by
  have hempty : opened.bindingLines = [] ↔ opened.procedures = [] ∧
      opened.overloads.entries = [] ∧ opened.finalizer = none := by
    simp [bindingLines, Text.under]
  rw [renderBindings]
  split
  · next h => rw [hempty.2 h, Text.ofLines_nil]
  · next h =>
    rw [bindingLines, Text.under, if_neg (by simpa [and_assoc] using h), Text.ofLines_append,
      Text.ofLines_append, Text.ofLines_append, Text.ofLines_map, Text.ofLines_map]
    cases opened.finalizer
    · rfl
    · rfl

/-- The lines of a type. -/
def TypeBlock.lines : TypeBlock → List String
  | enumeration enumerators =>
    [" enum, bind(c)"] ++
      (enumerators.map fun e => "  enumerator :: " ++ e.1 ++ " = " ++ toString e.2) ++
      [" end enum"]
  | derived cls data =>
    [" type :: " ++ cls.name] ++ data.map ("  " ++ ·) ++ cls.bindingLines ++
      [" end type " ++ cls.name]
  | shell name data =>
    [" type, public :: " ++ name] ++ data.map ("  " ++ ·) ++ [" end type " ++ name]

theorem TypeBlock.render_eq_ofLines (block : TypeBlock) :
    block.render = Text.ofLines block.lines := by
  unfold render lines
  cases block with
  | enumeration enumerators =>
    rw [Text.ofLines_append, Text.ofLines_append, Text.ofLines_map]
    rfl
  | derived cls data =>
    simp [← String.toList_inj, Text.indented_eq_ofLines, OpenClass.renderBindings_eq_ofLines]
  | shell name data =>
    simp [← String.toList_inj, Text.indented_eq_ofLines]

/-! ## Sources -/

/-- The lines that the sources of a module are put together from. -/
structure ModuleLines where
  includes : List String
  wrappers : List String
  init : List String
  imports : List String
  publics : List String
  types : List String
  generics : List String
  interfaces : List String
  routines : List String

namespace ModuleLines

/-- The lines that define the macro which exports a wrapper. -/
def exportMacro : List String := [
  "#ifndef SWIGEXPORT",
  "# if defined(_WIN32) || defined(__WIN32__) || defined(__CYGWIN__)",
  "#   define SWIGEXPORT __declspec(dllexport)",
  "# elif defined(__GNUC__)",
  "#   define SWIGEXPORT __attribute__ ((visibility(\"default\")))",
  "# else",
  "#   define SWIGEXPORT",
  "# endif",
  "#endif"]

/-- The lines of the C++ source. -/
def cxx (lines : ModuleLines) : List String :=
  (if lines.includes = [] then [] else lines.includes ++ [""]) ++ exportMacro ++
  ["extern \"C\" \x7b", ""] ++ lines.wrappers ++ ["\x7d // extern \"C\""] ++
  Text.under [""] lines.init

/-- The lines of the Fortran source. -/
def fortran (lines : ModuleLines) (name : String) : List String :=
  ["module " ++ name, " use, intrinsic :: ISO_C_BINDING"] ++ lines.imports ++
  [" implicit none", " private"] ++ Text.under [""] lines.publics ++
  Text.under [""] lines.types ++ Text.under [""] lines.generics ++
  (if lines.interfaces = [] then []
    else ["", " interface"] ++ lines.interfaces ++ [" end interface"]) ++
  Text.under ["", "contains"] lines.routines ++ ["", "end module " ++ name]

end ModuleLines

namespace ModuleParts

/-- The lines that include headers, of each list of public names, of each group of overloads, and
those of all other parts. -/
def lines (parts : ModuleParts) (decls : Declarations) (config : Config) : ModuleLines where
  includes := decls.includes.map fun header => "#include " ++
    if header.toList.head? ∈ [some '<', some '"'] then header else "\"" ++ header ++ "\""
  wrappers := parts.wrappers.flatMap Wrapper.lines
  init := decls.init.map Text.withoutTrailingBlanks
  imports := config.imports.map fun other => " use " ++ other
  publics := parts.publics.map fun names => " public :: " ++ ", ".intercalate names
  types := parts.types.flatMap TypeBlock.lines
  generics := parts.overloads.entries.flatMap fun group =>
    [" public :: " ++ group.1, " interface " ++ group.1,
      "  module procedure " ++ ", ".intercalate group.2, " end interface"]
  interfaces := parts.interfaces.flatMap BindInterface.lines
  routines := parts.routines.flatMap Routine.lines

/-- A part with a separator in front, or nothing if the part has no lines. -/
theorem precededBy_eq_ofLines {separator text : String} {heading lines : List String}
    (hseparator : separator = Text.ofLines heading) (htext : text = Text.ofLines lines) :
    precededBy separator text = Text.ofLines (Text.under heading lines) := by
  rw [precededBy, Text.under, hseparator, htext]
  exact Text.ofLines_unless_nil (Text.ofLines_append heading lines).symm

section

variable (parts : ModuleParts) (decls : Declarations) (config : Config)

theorem join_map_includeLine : String.join (decls.includes.map includeLine) =
    Text.ofLines (parts.lines decls config).includes := by
  rw [lines, Text.ofLines_map]
  refine congrArg String.join (List.map_congr_left fun header _ => ?_)
  simp [includeLine]

theorem moduleInterfaces_eq_ofLines :
    parts.overloads.moduleInterfaces = Text.ofLines (parts.lines decls config).generics := by
  refine Text.join_map_eq_ofLines (fun group => ?_) _
  simp [← String.toList_inj]

/-- **The C++ source of a module, line by line.** -/
theorem cxxSource_eq_ofLines :
    parts.cxxSource decls = Text.ofLines (parts.lines decls config).cxx := by
  have hincludes := parts.join_map_includeLine decls config
  have hwrappers : String.join (parts.wrappers.map Wrapper.render) =
      Text.ofLines (parts.lines decls config).wrappers :=
    Text.join_map_eq_ofLines Wrapper.render_eq_ofLines _
  have hinit : precededBy "\n" (String.join (decls.init.map fun code =>
        Text.withoutTrailingBlanks code ++ "\n")) =
      Text.ofLines (Text.under [""] (parts.lines decls config).init) :=
    precededBy_eq_ofLines rfl (Text.ofLines_map _ _).symm
  have hmacro : exportMacro ++ "\n" = Text.ofLines ModuleLines.exportMacro := by decide +kernel
  have hstart : (if (Text.ofLines (parts.lines decls config).includes).isEmpty then ""
        else Text.ofLines (parts.lines decls config).includes ++ "\n") =
      Text.ofLines (if (parts.lines decls config).includes = [] then []
        else (parts.lines decls config).includes ++ [""]) :=
    Text.ofLines_unless_nil (Text.ofLines_append _ [""]).symm
  unfold cxxSource ModuleLines.cxx
  dsimp only
  rw [hincludes, hstart, hwrappers, hinit]
  simp only [Text.ofLines_append, ← hmacro]
  simp [← String.toList_inj]

/-- **The Fortran source of a module, line by line.** -/
theorem fortranSource_eq_ofLines (name : String) : parts.fortranSource config name =
    Text.ofLines ((parts.lines decls config).fortran name) := by
  have hpublics : precededBy "\n" (String.join (parts.publics.map fun names =>
        " public :: " ++ ", ".intercalate names ++ "\n")) =
      Text.ofLines (Text.under [""] (parts.lines decls config).publics) :=
    precededBy_eq_ofLines rfl (Text.ofLines_map _ _).symm
  have htypes : precededBy "\n" (String.join (parts.types.map TypeBlock.render)) =
      Text.ofLines (Text.under [""] (parts.lines decls config).types) :=
    precededBy_eq_ofLines rfl (Text.join_map_eq_ofLines TypeBlock.render_eq_ofLines _)
  have hgenerics : precededBy "\n" parts.overloads.moduleInterfaces =
      Text.ofLines (Text.under [""] (parts.lines decls config).generics) :=
    precededBy_eq_ofLines rfl (parts.moduleInterfaces_eq_ofLines decls config)
  have hinterfaces : String.join (parts.interfaces.map BindInterface.render) =
      Text.ofLines (parts.lines decls config).interfaces :=
    Text.join_map_eq_ofLines BindInterface.render_eq_ofLines _
  have hroutines : precededBy "\ncontains\n" (String.join (parts.routines.map Routine.render)) =
      Text.ofLines (Text.under ["", "contains"] (parts.lines decls config).routines) :=
    precededBy_eq_ofLines rfl (Text.join_map_eq_ofLines Routine.render_eq_ofLines _)
  have himports : String.join (config.imports.map fun other => " use " ++ other ++ "\n") =
      Text.ofLines (parts.lines decls config).imports :=
    (Text.ofLines_map _ _).symm
  have htitle : "module " ++ name ++ "\n use, intrinsic :: ISO_C_BINDING\n" =
      Text.ofLines ["module " ++ name, " use, intrinsic :: ISO_C_BINDING"] := by
    simp [← String.toList_inj]
  have hend : "\nend module " ++ name ++ "\n" = Text.ofLines ["", "end module " ++ name] := by
    simp [← String.toList_inj]
  have hblock : (if (Text.ofLines (parts.lines decls config).interfaces).isEmpty then ""
        else "\n interface\n" ++ Text.ofLines (parts.lines decls config).interfaces ++
          " end interface\n") =
      Text.ofLines (if (parts.lines decls config).interfaces = [] then []
        else ["", " interface"] ++ (parts.lines decls config).interfaces ++
          [" end interface"]) := by
    refine Text.ofLines_unless_nil ?_
    rw [Text.ofLines_append, Text.ofLines_append]
    rfl
  unfold fortranSource ModuleLines.fortran
  dsimp only
  rw [hpublics, htypes, hgenerics, hinterfaces, hroutines, himports, htitle, hblock]
  simp only [Text.ofLines_append, ← hend, String.append_assoc]
  rfl

end

end ModuleParts

end FortranBindings
