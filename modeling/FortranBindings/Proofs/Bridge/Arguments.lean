import Mathlib.Data.List.Nodup
import FortranBindings.Bridge.Make
import FortranBindings.Proofs.Ensures
import FortranBindings.Proofs.ModuleSource.Lines
import FortranBindings.Proofs.Text.Decimal

/-!
# The arguments of a bridge

A bridge takes one argument for each parameter that is not without input, in the order of the
parameters and named after their positions (`Bridge.IsAligned`). Whether a parameter is without
input is decided from its `in` typemap as it is found anew; that gives what the kept typemaps of
the parameter say, because these always contain the one for `in` (`attach_ensures`) and finding it
again keeps the number of its inputs (`find_ensures_of_attached`).
-/

namespace FortranBindings

variable {sources : Sources}

/-! ## Typemaps for `in` -/

namespace Lookup

/-- Replacing the class name keeps the number of inputs. -/
theorem withClassName_numInputs (type : CxxType) (typemap : Typemap) (location : Location) :
    Ensures (fun _ => True) (withClassName sources type typemap location)
      (·.numInputs = typemap.numInputs) := by
  unfold withClassName
  refine Ensures.always.bind fun code? _ => ?_
  cases code? with
  | some code => exact .pure rfl
  | none => exact .pure rfl

/-- An attached typemap is found, with its number of inputs. -/
theorem find_ensures_of_attached {request : Request} {typemap : Typemap}
    (h : request.attached? = some typemap) :
    Ensures (fun _ => True) (find sources request)
      fun found => found.map Typemap.numInputs = some typemap.numInputs := by
  unfold find
  simp only [h]
  exact (withClassName_numInputs _ _ _).bind fun found hfound => .pure (congrArg some hfound)

/-- Something is found for a required operation. -/
theorem find_ensures_of_required {request : Request} (h : request.need = .required) :
    Ensures (fun _ => True) (find sources request) (·.isSome) := by
  have hsearch : Ensures (fun _ => True) (searchStore sources request) (·.isSome) := by
    unfold searchStore
    rw [h]
    cases sources.search? request.operations request.type with
    | some typemap =>
      exact Ensures.always.bind fun _ _ => Ensures.always.bind fun _ _ => .pure rfl
    | none => exact Ensures.always.bind fun _ _ => Ensures.always.bind fun _ _ => .pure rfl
  unfold find
  cases request.attached? with
  | some typemap => exact Ensures.always.bind fun _ _ => .pure rfl
  | none =>
    refine Ensures.always.bind fun state _ => ?_
    rw [h]
    cases state.answer? request.mainOperation request.type.signature with
    | none => exact hsearch
    | some answer => cases answer <;> exact .pure rfl

/-- The typemaps of a parameter contain one for a required operation that was attached. -/
theorem attach_ensures (operation : String) (location : Location) (parameter : Parameter) :
    Ensures (fun _ => True) (attach sources operation .required location parameter)
      fun attachments => (attachments.find? operation).isSome := by
  unfold attach
  split
  · next hcontains => exact .pure hcontains
  · refine (find_ensures_of_required rfl).bind fun found hfound => ?_
    cases found with
    | none => cases hfound
    | some typemap => exact .pure (by simp [Dict.find?_insert])

end Lookup

/-! ## Positions -/

/-- The numbered elements with a property stand at the positions with it. -/
theorem map_snd_filter_zipIdx {α : Type} (p : α → Bool) (xs : List α) (n : Nat) :
    ((xs.zipIdx n).filter fun x => p x.1).map (·.2) =
      ((List.range xs.length).filter fun i => xs[i]?.any p).map (· + n) := by
  induction xs generalizing n with
  | nil => rfl
  | cons x xs ih =>
    -- The positions behind the first one are those of `xs`, moved by one.
    have hrest : (((List.range xs.length).map Nat.succ).filter fun i => (x :: xs)[i]?.any p).map
        (· + n) = ((xs.zipIdx (n + 1)).filter fun x => p x.1).map (·.2) := by
      rw [ih, List.filter_map, List.map_map]
      refine List.map_congr_left fun i _ => ?_
      simp only [Function.comp_apply]
      omega
    rw [List.zipIdx_cons, List.length_cons, List.range_succ_eq_map, List.filter_cons,
      List.filter_cons, List.getElem?_cons_zero, Option.any_some]
    split
    · rw [List.map_cons, List.map_cons, hrest, Nat.zero_add]
    · exact hrest.symm

namespace Bridge

/-- The positions of the parameters that take an argument from the caller. -/
def inputPositions (bridge : Bridge) : List Nat :=
  (List.range bridge.parameters.length).filter fun i => !bridge.isZeroInput i

/-- With typemaps for every parameter, numbering the pairs and leaving out the ones without input
gives the numbers behind the positions with input. -/
theorem map_snd_filter_zip {bridge : Bridge}
    (h : bridge.attachments.length = bridge.parameters.length) :
    (((bridge.parameters.zip bridge.attachments).zipIdx 1).filter
        fun x => !x.1.2.isZeroInput).map (·.2) = bridge.inputPositions.map (· + 1) := by
  rw [map_snd_filter_zipIdx (fun x : Parameter × Attachments => !x.2.isZeroInput),
    List.length_zip, h, Nat.min_self, inputPositions]
  refine congrArg _ (List.filter_congr fun i hi => ?_)
  have hi := List.mem_range.1 hi
  simp [isZeroInput, hi, h]

/-! ## Fragments -/

theorem mem_slotsOf {decls : Declarations} {parameters : List Parameter}
    {attachments : List Attachments} {slot : Slot}
    (h : slot ∈ slotsOf decls parameters attachments) :
    (slot.parameter, slot.attachments) ∈ parameters.zip attachments := by
  obtain ⟨⟨pair, number⟩, hp, rfl⟩ := List.mem_map.1 h
  exact List.fst_mem_of_mem_zipIdx hp

/-- A slot is for one of the parameters. -/
theorem parameter_mem_of_mem_slotsOf {decls : Declarations} {parameters : List Parameter}
    {attachments : List Attachments} {slot : Slot}
    (h : slot ∈ slotsOf decls parameters attachments) : slot.parameter ∈ parameters :=
  (List.of_mem_zip (mem_slotsOf h)).1

theorem Slot.argument_ensures (location : Location) (input : Option Typemap) (slot : Slot) :
    Ensures (fun _ => True) (slot.argument sources location input)
      (·.isNone = input.any Typemap.isZeroInput) := by
  unfold argument
  split
  · next hzero => exact .pure hzero.symm
  · next hinput =>
    refine Ensures.always.bind fun cType _ => Ensures.always.bind fun fortranType _ => .pure ?_
    simpa using hinput

/-- Finding the typemap for `in` again decides as the kept typemaps do whether there is an
argument. -/
theorem fragments_ensures {slot : Slot} (h : (slot.attachments.find? "in").isSome)
    (location : Location) (cleanup : List String) :
    Ensures (fun _ => True) (fragments sources location cleanup slot)
      (·.argument.isNone = slot.attachments.isZeroInput) := by
  obtain ⟨typemap, htypemap⟩ := Option.isSome_iff_exists.1 h
  have hattached : (slot.request location .required "in").attached? = some typemap := by
    simpa [Request.attached?, Request.operations, Slot.request] using htypemap
  refine (Lookup.find_ensures_of_attached hattached).bind fun found hfound => ?_
  refine (slot.argument_ensures location found).bind fun argument hargument => ?_
  refine Ensures.always.bind fun check _ => Ensures.always.bind fun argout _ => .pure ?_
  obtain ⟨t, rfl, ht⟩ := Option.map_eq_some_iff.1 hfound
  rw [hargument, Attachments.isZeroInput, htypemap]
  simp [Typemap.isZeroInput, ht]

/-! ## Bridges -/

/-- A bridge and its interface have one argument for each parameter that takes one, in order. -/
structure IsAligned (bridge : Bridge) : Prop where
  length_attachments : bridge.attachments.length = bridge.parameters.length
  arguments : bridge.arguments = bridge.inputPositions.map fun i => argumentName (i + 1)
  interface_arguments : bridge.interface.arguments.map (·.1) = bridge.arguments
  interface_name : bridge.interface.name = bridge.name

theorem map_fst_argumentsOf {slots : List Slot} {parts : List Fragments}
    (h : List.Forall₂ (fun slot part => part.argument.isNone = slot.attachments.isZeroInput)
      slots parts) :
    (argumentsOf slots parts).map (·.1) =
      (slots.filter fun slot => !slot.attachments.isZeroInput).map fun slot =>
        argumentName slot.number := by
  induction h with
  | nil => rfl
  | @cons slot part slots parts hpart _ ih =>
    rw [List.filter_cons, ← hpart]
    unfold argumentsOf at ih ⊢
    rw [List.zip_cons_cons, List.filterMap_cons]
    cases hargument : part.argument with
    | none => simpa [hargument] using ih
    | some types => simpa [hargument] using ih

/-- The slots with input are numbered after the positions with input. -/
theorem filter_slotsOf (decls : Declarations) {bridge : Bridge}
    (h : bridge.attachments.length = bridge.parameters.length) :
    ((slotsOf decls bridge.parameters bridge.attachments).filter
        fun slot => !slot.attachments.isZeroInput).map (fun slot => argumentName slot.number) =
      bridge.inputPositions.map fun i => argumentName (i + 1) := by
  have hnumbers := congrArg (List.map argumentName) (map_snd_filter_zip h)
  rw [List.map_map, List.map_map] at hnumbers
  rw [slotsOf, List.filter_map, List.map_map]
  exact hnumbers

/-- A bridge is aligned if its arguments are those of its slots. -/
theorem isAligned_of_forall₂ {decls : Declarations} {bridge : Bridge} {parts : List Fragments}
    (hlength : bridge.attachments.length = bridge.parameters.length)
    (hparts : List.Forall₂ (fun slot part => part.argument.isNone = slot.attachments.isZeroInput)
      (slotsOf decls bridge.parameters bridge.attachments) parts)
    (hwrapper : bridge.wrapper.arguments =
      (argumentsOf (slotsOf decls bridge.parameters bridge.attachments) parts).map
        fun a => (a.2.1, a.1))
    (hinterface : bridge.interface.arguments =
      (argumentsOf (slotsOf decls bridge.parameters bridge.attachments) parts).map
        fun a => (a.1, a.2.2))
    (hname : bridge.interface.name = bridge.name) : bridge.IsAligned := by
  have hnames := (map_fst_argumentsOf hparts).trans (filter_slotsOf decls hlength)
  have harguments : bridge.arguments = bridge.inputPositions.map fun i => argumentName (i + 1) := by
    rw [arguments, hwrapper, List.map_map, ← hnames]
    rfl
  refine ⟨hlength, harguments, ?_, hname⟩
  rw [harguments, hinterface, List.map_map, ← hnames]
  rfl

theorem argumentName_injective : Function.Injective argumentName := by
  intro k l h
  have hlist := congrArg String.toList h
  simp only [argumentName, String.toList_append, List.append_right_inj, String.toList_inj] at hlist
  exact Text.toString_injective hlist

/-- The C types that the arguments are declared with. -/
def cTypes (bridge : Bridge) : List String := bridge.wrapper.arguments.map (·.1)

/-- The Fortran types that the arguments are declared with. -/
def fortranTypes (bridge : Bridge) : List String := bridge.interface.arguments.map (·.2)

/-- The arguments are those for the parameters with input, numbered after their positions. No name
is given twice, nor that of the result to an argument. The first line of the wrapper declares them
in order, each with a C type. The interface lists them in order and has one line for each that
declares it with a Fortran type. The sources are told line by line, so that there is no other
declaration. -/
structure ListsArguments (bridge : Bridge) : Prop where
  arguments : bridge.arguments = bridge.inputPositions.map fun i => argumentName (i + 1)
  nodup : bridge.arguments.Nodup
  fresult_notMem : "fresult" ∉ bridge.arguments
  length_cTypes : bridge.cTypes.length = bridge.inputPositions.length
  wrapper : bridge.wrapper.render = Text.ofLines (
    ["SWIGEXPORT " ++ bridge.wrapper.returnType ++ " " ++ bridge.name ++ "(" ++
      ", ".intercalate (List.zipWith (fun type argument => type ++ " " ++ argument) bridge.cTypes
        bridge.arguments) ++ ") \x7b"] ++
    (if bridge.wrapper.returnType = "void" then []
      else ["  " ++ bridge.wrapper.returnType ++ " fresult ;"]) ++
    (bridge.wrapper.locals.map fun l => "  " ++ l.1 ++ " " ++ l.2 ++ " ;") ++ [""] ++
    bridge.wrapper.statements.map ("  " ++ ·) ++
    (if bridge.wrapper.returnType = "void" then []
      else ["  return (" ++ bridge.wrapper.returnType ++ ")fresult;"]) ++ ["\x7d", ""])
  length_fortranTypes : bridge.fortranTypes.length = bridge.inputPositions.length
  interface : bridge.interface.render = Text.ofLines (
    [bridge.interface.kind ++ " " ++ bridge.name ++ "(" ++ ", ".intercalate bridge.arguments ++
        ") &",
      "bind(C, name=\"" ++ bridge.name ++ "\")" ++
        if bridge.interface.result.isSome then " &" else ""] ++
    (if bridge.interface.result.isSome then ["result(fresult)"] else []) ++
    ["use, intrinsic :: ISO_C_BINDING"] ++
    List.zipWith (fun type argument => type ++ " :: " ++ argument) bridge.fortranTypes
      bridge.arguments ++
    (bridge.interface.result.toList.map fun type => type ++ " :: fresult") ++
    ["end " ++ bridge.interface.kind])

namespace IsAligned

variable {bridge : Bridge}

theorem nodup_arguments (h : bridge.IsAligned) : bridge.arguments.Nodup := by
  rw [h.arguments]
  refine List.Nodup.map (fun i j hij => ?_) (List.nodup_range.filter _)
  exact Nat.succ.inj (argumentName_injective hij)

theorem fresult_notMem_arguments (h : bridge.IsAligned) : "fresult" ∉ bridge.arguments := by
  intro hmem
  rw [h.arguments] at hmem
  obtain ⟨i, _, hi⟩ := List.mem_map.1 hmem
  have hsecond := congrArg (·.toList[1]?) hi
  simp [argumentName] at hsecond

theorem length_cTypes (h : bridge.IsAligned) :
    bridge.cTypes.length = bridge.inputPositions.length := by
  have hlength := congrArg List.length h.arguments
  rw [List.length_map, Bridge.arguments, List.length_map] at hlength
  rw [cTypes, List.length_map, hlength]

theorem length_fortranTypes (h : bridge.IsAligned) :
    bridge.fortranTypes.length = bridge.inputPositions.length := by
  have hlength := congrArg List.length (h.interface_arguments.trans h.arguments)
  rw [List.length_map, List.length_map] at hlength
  rw [fortranTypes, List.length_map, hlength]

/-- **An aligned bridge lists its arguments** in the header of the wrapper and in the interface. -/
theorem listsArguments (h : bridge.IsAligned) : bridge.ListsArguments where
  arguments := h.arguments
  nodup := h.nodup_arguments
  fresult_notMem := h.fresult_notMem_arguments
  length_cTypes := h.length_cTypes
  wrapper := by
    have hdeclared : List.zipWith (fun type argument => type ++ " " ++ argument) bridge.cTypes
        bridge.arguments = bridge.wrapper.arguments.map fun a => a.1 ++ " " ++ a.2 := by
      rw [cTypes, Bridge.arguments, List.zipWith_map, List.zipWith_self]
    rw [Wrapper.render_eq_ofLines, Wrapper.lines, hdeclared]
    simp only [ne_eq, ite_not]
    rfl
  length_fortranTypes := h.length_fortranTypes
  interface := by
    have hdeclared : List.zipWith (fun type argument => type ++ " :: " ++ argument)
        bridge.fortranTypes bridge.arguments =
          bridge.interface.arguments.map fun a => a.2 ++ " :: " ++ a.1 := by
      rw [fortranTypes, ← h.interface_arguments, List.zipWith_map, List.zipWith_self]
    rw [BindInterface.render_eq_ofLines, BindInterface.lines, hdeclared, ← h.interface_arguments,
      ← h.interface_name]

end IsAligned

/-- Making a bridge gives one that is aligned, with the parameters and the result of the
declaration. -/
theorem make_ensures (callable : Callable) (owner : Option Class) (name : String) :
    EnsuresOk (fun _ => True) (make sources callable owner name) fun bridge =>
      bridge.IsAligned ∧ bridge.parameters = callable.parametersIn owner ∧
        bridge.result = callable.resultIn owner := by
  unfold make
  refine (EnsuresOk.lift Ensures.always).bind fun returnType _ => ?_
  refine (EnsuresOk.lift (.mapM fun p _ => Lookup.attach_ensures "in" _ p)).bind
    fun attachments hattachments => ?_
  refine (EnsuresOk.lift Ensures.always).bind fun cleanups _ => ?_
  refine (EnsuresOk.lift (.mapM fun slot hslot => fragments_ensures ?_ _ _)).bind
    fun parts hparts => ?_
  · exact List.forall₂_zip hattachments (mem_slotsOf hslot)
  refine (EnsuresOk.liftExcept _).bind fun action _ => ?_
  refine (EnsuresOk.lift Ensures.always).bind fun output _ => ?_
  refine (EnsuresOk.lift Ensures.always).bind fun fortranResult _ => .pure ⟨?_, rfl, rfl⟩
  exact isAligned_of_forall₂ hattachments.length_eq.symm hparts rfl rfl rfl

end Bridge

end FortranBindings
