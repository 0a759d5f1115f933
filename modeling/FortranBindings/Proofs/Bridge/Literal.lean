import FortranBindings.Proofs.Bridge.Arguments
import FortranBindings.Proofs.Declarations.Literal

/-!
# Bridges without a `$`

A bridge is filled in with the names and types of its declaration and with code of its own, none of
which has a `$`. The values for each template are exactly those for the tokens of its operation, so
that no `$` is left in the wrapper and the interface (`Bridge.make_isLiteral`).
-/

namespace FortranBindings

open Text

/-! ## Sources -/

/-- No text in the wrapper has a `$`. -/
structure Wrapper.IsLiteral (wrapper : Wrapper) : Prop where
  name : Text.IsLiteral wrapper.name
  returnType : Text.IsLiteral wrapper.returnType
  arguments : ∀ argument ∈ wrapper.arguments,
    Text.IsLiteral argument.1 ∧ Text.IsLiteral argument.2
  locals : ∀ declared ∈ wrapper.locals, Text.IsLiteral declared.1 ∧ Text.IsLiteral declared.2
  statements : AllLiteral wrapper.statements

/-- No text in the interface has a `$`. -/
structure BindInterface.IsLiteral (interface : BindInterface) : Prop where
  name : Text.IsLiteral interface.name
  arguments : ∀ argument ∈ interface.arguments,
    Text.IsLiteral argument.1 ∧ Text.IsLiteral argument.2
  result : ∀ type ∈ interface.result, Text.IsLiteral type

namespace Wrapper

theorem isLiteral_localLine {declared : String × String}
    (h : Text.IsLiteral declared.1 ∧ Text.IsLiteral declared.2) :
    Text.IsLiteral (localLine declared) := by
  simp only [localLine, isLiteral_append, h.1, h.2, and_true]
  simp [Text.IsLiteral]

variable {wrapper : Wrapper}

theorem IsLiteral.isLiteral_header (h : wrapper.IsLiteral) : Text.IsLiteral wrapper.header := by
  have harguments : Text.IsLiteral
      (", ".intercalate (wrapper.arguments.map fun a => a.1 ++ " " ++ a.2)) := by
    refine isLiteral_listed (List.forall_mem_map.2 fun a ha => ?_)
    simp only [isLiteral_append, h.arguments a ha, true_and, and_true]
    simp [Text.IsLiteral]
  unfold header
  simp only [isLiteral_append, h.returnType, h.name, harguments, and_true]
  simp [Text.IsLiteral]

/-- The source of the wrapper has no `$`. -/
theorem IsLiteral.isLiteral_render (h : wrapper.IsLiteral) : Text.IsLiteral wrapper.render := by
  have hindent : Text.IsLiteral "  " := by simp [Text.IsLiteral]
  have hresult : Text.IsLiteral "fresult" := by simp [Text.IsLiteral]
  have hlocals : Text.IsLiteral (String.join (wrapper.locals.map localLine)) :=
    isLiteral_join_map fun declared hd => isLiteral_localLine (h.locals declared hd)
  have hdeclared : Text.IsLiteral (localLine (wrapper.returnType, "fresult")) :=
    isLiteral_localLine ⟨h.returnType, hresult⟩
  have hstatements := isLiteral_indented hindent h.statements
  unfold render
  cases wrapper.isSubroutine with
  | true =>
    simp only [isLiteral_append, h.isLiteral_header, hlocals, hstatements, true_and, and_true,
      if_true]
    simp [Text.IsLiteral]
  | false =>
    simp only [isLiteral_append, h.isLiteral_header, hlocals, hstatements, hdeclared,
      h.returnType, true_and, and_true, Bool.false_eq_true, if_false]
    simp [Text.IsLiteral]

end Wrapper

namespace BindInterface

variable {interface : BindInterface}

theorem isLiteral_kind (interface : BindInterface) : Text.IsLiteral interface.kind := by
  unfold kind
  split <;> simp [Text.IsLiteral]

/-- The source of the interface has no `$`. -/
theorem IsLiteral.isLiteral_render (h : interface.IsLiteral) : Text.IsLiteral interface.render := by
  have hkind := isLiteral_kind interface
  have hnames : Text.IsLiteral (", ".intercalate (interface.arguments.map (·.1))) :=
    isLiteral_listed (List.forall_mem_map.2 fun argument ha => (h.arguments argument ha).1)
  have hdeclarations : Text.IsLiteral interface.declarations := by
    refine isLiteral_join_map fun argument ha => ?_
    simp only [isLiteral_append, h.arguments argument ha, true_and, and_true]
    simp [Text.IsLiteral]
  unfold render title
  cases hresult : interface.result with
  | none =>
    simp only [isLiteral_append, hkind, h.name, hnames, hdeclarations, Option.isSome_none,
      Option.elim_none, Bool.false_eq_true, if_false, true_and, and_true]
    simp [Text.IsLiteral]
  | some type =>
    simp only [isLiteral_append, hkind, h.name, hnames, hdeclarations, h.result type hresult,
      Option.isSome_some, Option.elim_some, if_true, true_and, and_true]
    simp [Text.IsLiteral]

end BindInterface

/-! ## Local variables and actions -/

variable {sources : Sources} {type : CxxType} {callable : Callable} {owner : Option Class}

namespace Held

/-- A local variable for a parameter is built on what the parameter or the type that it resolves to
is built on. -/
theorem root_ofParameter (decls : Declarations) (type : CxxType) :
    (ofParameter decls type).type.root = type.root ∨
      (ofParameter decls type).type.root = (decls.resolveOrKeep type).root := by
  unfold ofParameter
  split
  · exact .inl (CxxType.root_withConst _ _)
  · next hresolved => exact .inr (hresolved ▸ rfl)
  · split
    · split
      · exact .inl rfl
      · exact .inl (CxxType.root_withConst _ _)
    · exact .inl (CxxType.root_withConst _ _)

theorem root_ofResult (decls : Declarations) (type : CxxType) :
    (ofResult decls type).type.root = type.root ∨
      (ofResult decls type).type.root = (decls.resolveOrKeep type).root := by
  unfold ofResult
  split
  · exact .inl (CxxType.root_withConst _ _)
  · next hresolved => exact .inr (hresolved ▸ rfl)
  · exact .inl (CxxType.root_withConst _ _)

/-- A local variable that is built on such a type is declared without a `$`. -/
theorem isLiteral_signature (hs : sources.IsFillable) (htype : Text.IsLiteral type.signature)
    {held : Held} (h : held.type.root = type.root ∨
      held.type.root = (sources.decls.resolveOrKeep type).root) :
    Text.IsLiteral held.type.signature := by
  rw [CxxType.isLiteral_signature]
  rcases h with h | h
  · rw [h]
    exact CxxType.isLiteral_signature.1 htype
  · rw [h]
    exact CxxType.isLiteral_signature.1 (hs.isLiteral_resolveOrKeep htype)

end Held

theorem isLiteral_localName (number : Nat) : Text.IsLiteral (localName number) :=
  isLiteral_append.2 ⟨by simp [Text.IsLiteral], isLiteral_natToString number⟩

theorem isLiteral_argumentName (number : Nat) : Text.IsLiteral (argumentName number) :=
  isLiteral_append.2 ⟨by simp [Text.IsLiteral], isLiteral_natToString number⟩

namespace Callable

theorem isLiteral_callStatement {call : String} (hcall : Text.IsLiteral call) {held : Held}
    (hheld : Text.IsLiteral held.type.signature) (result : CxxType) :
    Text.IsLiteral (callStatement call result held) := by
  unfold callStatement
  split
  · simp only [isLiteral_append, hcall, true_and]
    simp [Text.IsLiteral]
  · split
    · simp only [isLiteral_append, hcall, hheld, and_true]
      simp [Text.IsLiteral]
    · simp only [isLiteral_append, hcall, and_true]
      simp [Text.IsLiteral]

theorem allLiteral_argumentExpressions (callable : Callable) (helds : List Held) :
    AllLiteral (callable.argumentExpressions helds) := by
  intro expression hexpression
  obtain ⟨⟨held, number⟩, -, rfl⟩ := List.mem_map.1 hexpression
  dsimp only
  unfold Held.expression
  split
  · exact isLiteral_append.2 ⟨by simp [Text.IsLiteral], isLiteral_localName number⟩
  · exact isLiteral_localName number

/-- The statement that invokes an entity has no `$`. -/
theorem IsLiteral.isLiteral_defaultAction (h : callable.IsLiteral)
    (howner : ∀ cls ∈ owner, cls.IsLiteral) {helds : List Held} {result : CxxType} {held : Held}
    (hheld : Text.IsLiteral held.type.signature) {action : String}
    (haction : callable.defaultAction owner helds result held = .ok action) :
    Text.IsLiteral action := by
  have harguments := callable.allLiteral_argumentExpressions helds
  have hlist : Text.IsLiteral (", ".intercalate (callable.argumentExpressions helds)) :=
    isLiteral_listed harguments
  have hcall : ∀ function, Text.IsLiteral function → Text.IsLiteral
      (callStatement (function ++ "(" ++ ", ".intercalate (callable.argumentExpressions helds) ++
        ")") result held) := by
    intro function hfunction
    refine isLiteral_callStatement ?_ hheld result
    simp only [isLiteral_append, hfunction, hlist, true_and, and_true]
    simp [Text.IsLiteral]
  have harrow : Text.IsLiteral "arg1->" := by simp [Text.IsLiteral]
  unfold defaultAction at haction
  cases hkind : callable.kind with
  | freeFunction =>
    rw [hkind] at haction
    cases haction
    exact hcall _ h.name
  | constructor =>
    rw [hkind] at haction
    cases owner with
    | none => cases haction
    | some cls =>
      cases haction
      have hnew : Text.IsLiteral "new " := by simp [Text.IsLiteral]
      exact hcall _ (isLiteral_append.2 ⟨hnew, (howner cls rfl).name⟩)
  | destructor =>
    rw [hkind] at haction
    cases haction
    simp [Text.IsLiteral]
  | method isConst =>
    rw [hkind] at haction
    cases haction
    exact hcall _ (isLiteral_append.2 ⟨harrow, isLiteral_unqualified h.name⟩)
  | accessor field role =>
    have hfield := h.field field role hkind
    rw [hkind] at haction
    cases role with
    | get =>
      cases haction
      exact isLiteral_callStatement (isLiteral_append.2 ⟨harrow, hfield⟩) hheld result
    | set =>
      cases haction
      have hvalue : Text.IsLiteral ((callable.argumentExpressions helds).headD "") := by
        cases hvalues : callable.argumentExpressions helds with
        | nil => simp [Text.IsLiteral]
        | cons value values => exact harguments value (hvalues ▸ List.mem_cons_self)
      simp only [isLiteral_append, hfield, hvalue, and_true]
      simp [Text.IsLiteral]

end Callable

/-! ## Slots -/

namespace Bridge

/-- All typemaps of the parameter can be filled in, with types that have no `$`. -/
structure Slot.IsReady (slot : Slot) : Prop where
  attachments : slot.attachments.IsReady
  held : Text.IsLiteral slot.held.type.signature
  type : Text.IsLiteral slot.parameter.type.signature

/-- No text that the templates of a parameter give has a `$`. -/
structure Fragments.IsLiteral (part : Fragments) : Prop where
  argument : ∀ types ∈ part.argument, Text.IsLiteral types.1 ∧ Text.IsLiteral types.2
  input : AllLiteral part.input
  check : AllLiteral part.check
  argout : AllLiteral part.argout

namespace Slot.IsReady

variable {slot : Slot}

theorem isFillable (h : slot.IsReady) (location : Location) (need : Need) (operation : String) :
    (slot.request location need operation).IsFillable :=
  Request.IsFillable.of_operation h.attachments

/-- No value for a token of the parameter has a `$`. -/
theorem isLiteral_of_mem_replacements (h : slot.IsReady) :
    ∀ pair ∈ slot.replacements, Text.IsLiteral pair.2 := by
  have hinput : Text.IsLiteral
      (if slot.attachments.isZeroInput then "" else argumentName slot.number) := by
    split
    · simp [Text.IsLiteral]
    · exact isLiteral_argumentName slot.number
  have hbare := CxxType.isLiteral_bare.2 h.type
  simp only [replacements, List.forall_mem_cons]
  exact ⟨hinput, isLiteral_localName slot.number, h.held, hbare, List.forall_mem_nil _⟩

theorem optionalLines_allLiteral (h : slot.IsReady) (hs : sources.IsFillable)
    (location : Location) {replacements : Replacements} {operation : String}
    (htokens : replacements.map (·.1) = tokensOf operation)
    (hvalues : ∀ pair ∈ replacements, Text.IsLiteral pair.2) :
    Ensures LookupState.IsReady (slot.optionalLines sources location replacements operation)
      AllLiteral := by
  refine (Lookup.find_readyFor hs (h.isFillable location .optional operation)).bind
    fun found hfound => ?_
  have hfound : ∀ typemap ∈ found, ReadyFor operation typemap.code := hfound
  have hlines := ReadyFor.allLiteral_elim hfound htokens hvalues
  cases found with
  | none => exact .pure allLiteral_nil
  | some typemap =>
    rw [Option.elim_some] at hlines
    exact .pure hlines

theorem argument_isLiteral (h : slot.IsReady) (hs : sources.IsFillable) (location : Location)
    (input : Option Typemap) :
    Ensures LookupState.IsReady (slot.argument sources location input) fun argument =>
      ∀ types ∈ argument, Text.IsLiteral types.1 ∧ Text.IsLiteral types.2 := by
  unfold argument
  split
  · exact .pure nofun
  · refine (Lookup.code_readyFor hs (h.isFillable location .required "ctype")).bind
      fun cType hcType => ?_
    refine (Lookup.code_readyFor hs (h.isFillable location .required "imtype")).bind
      fun fortranType hfortranType => .pure fun types htypes => ?_
    cases htypes
    exact ⟨hcType.isLiteral rfl, hfortranType.isLiteral rfl⟩

/-- The templates of a parameter give texts without a `$`. -/
theorem fragments_isLiteral (h : slot.IsReady) (hs : sources.IsFillable) (location : Location)
    {cleanup : List String} (hcleanup : AllLiteral cleanup) :
    Ensures LookupState.IsReady (fragments sources location cleanup slot)
      Fragments.IsLiteral := by
  have hvalues : ∀ pair ∈ slot.replacements ++ [("$cleanup", joinedLines cleanup)],
      Text.IsLiteral pair.2 := by
    rw [List.forall_mem_append, List.forall_mem_singleton]
    exact ⟨h.isLiteral_of_mem_replacements, isLiteral_joinedLines hcleanup⟩
  refine (Lookup.find_readyFor hs (h.isFillable location .required "in")).bind
    fun template htemplate => ?_
  refine (h.argument_isLiteral hs location template).bind fun argument hargument => ?_
  refine (h.optionalLines_allLiteral hs location rfl hvalues).bind fun check hcheck => ?_
  refine (h.optionalLines_allLiteral hs location rfl hvalues).bind fun argout hargout => ?_
  refine .pure ⟨hargument, ?_, hcheck, hargout⟩
  have htemplate : ∀ typemap ∈ template, ReadyFor "in" typemap.code := htemplate
  dsimp only
  exact ReadyFor.allLiteral_elim htemplate rfl h.isLiteral_of_mem_replacements

end Slot.IsReady

theorem held_of_mem_slotsOf {decls : Declarations} {parameters : List Parameter}
    {attachments : List Attachments} {slot : Slot}
    (h : slot ∈ slotsOf decls parameters attachments) :
    slot.held = Held.ofParameter decls slot.parameter.type := by
  obtain ⟨⟨pair, number⟩, -, rfl⟩ := List.mem_map.1 h
  rfl

/-- Slots are ready for types without a `$` and typemaps that can be filled in. -/
theorem isReady_of_mem_slotsOf (hs : sources.IsFillable) {parameters : List Parameter}
    (hparameters : ∀ parameter ∈ parameters, Text.IsLiteral parameter.type.signature)
    {attachments : List Attachments} (hattachments : ∀ a ∈ attachments, a.IsReady) {slot : Slot}
    (h : slot ∈ slotsOf sources.decls parameters attachments) : slot.IsReady := by
  obtain ⟨hparameter, hattached⟩ := List.of_mem_zip (mem_slotsOf h)
  have htype := hparameters slot.parameter hparameter
  refine ⟨hattachments slot.attachments hattached, ?_, htype⟩
  rw [held_of_mem_slotsOf h]
  exact Held.isLiteral_signature hs htype (Held.root_ofParameter sources.decls _)

/-- The names and types of all arguments have no `$`. -/
theorem isLiteral_of_mem_argumentsOf {slots : List Slot} {parts : List Fragments}
    (h : ∀ part ∈ parts, part.IsLiteral) {argument : String × String × String}
    (hargument : argument ∈ argumentsOf slots parts) :
    Text.IsLiteral argument.1 ∧ Text.IsLiteral argument.2.1 ∧ Text.IsLiteral argument.2.2 := by
  obtain ⟨⟨slot, part⟩, hpair, hsome⟩ := List.mem_filterMap.1 hargument
  obtain ⟨types, htypes, rfl⟩ := Option.map_eq_some_iff.1 hsome
  exact ⟨isLiteral_argumentName slot.number,
    (h part (List.of_mem_zip hpair).2).argument types htypes⟩

/-! ## Making a bridge -/

theorem allLiteral_actionLines (h : callable.IsLiteral) {action : String}
    (haction : Text.IsLiteral action) : AllLiteral (actionLines callable action) := by
  unfold actionLines
  split
  · next exception hexception =>
    refine allLiteral_codeLines (Text.isLiteral_substitute (h.exception exception hexception) ?_)
    rw [List.forall_mem_singleton]
    exact isLiteral_withoutTrailingBlanks haction
  · exact allLiteral_codeLines haction

theorem isLiteral_actionOf (h : callable.IsLiteral) (howner : ∀ cls ∈ owner, cls.IsLiteral)
    {slots : List Slot} {result : CxxType} {held : Held}
    (hheld : Text.IsLiteral held.type.signature) {action : String}
    (haction : actionOf callable owner slots result held = .ok action) :
    Text.IsLiteral action := by
  unfold actionOf at haction
  split at haction
  · next hcode =>
    cases haction
    exact h.action action hcode
  · exact h.isLiteral_defaultAction howner hheld haction

theorem outputLines_allLiteral (hs : sources.IsFillable) {result : CxxType}
    (hresult : Text.IsLiteral result.signature) {held : Held}
    (hheld : Text.IsLiteral held.type.signature) {cleanup : List String}
    (hcleanup : AllLiteral cleanup) :
    Ensures LookupState.IsReady (outputLines sources callable result held cleanup)
      AllLiteral := by
  unfold outputLines
  split
  · exact .pure allLiteral_nil
  · have hrequest : Request.IsFillable
        { operation := "out", type := result, need := .required, location := callable.location } :=
      .of_operation Attachments.isReady_empty
    refine (Lookup.code_readyFor hs hrequest).bind fun template htemplate => .pure ?_
    refine allLiteral_codeLines (htemplate.isLiteral_substitute rfl ?_)
    have hbare := CxxType.isLiteral_bare.2 hresult
    have howned : Text.IsLiteral (if callable.features.newObject then "1" else "0") := by
      split <;> simp [Text.IsLiteral]
    simp only [List.forall_mem_cons]
    refine ⟨?_, ?_, hheld, hbare, howned, isLiteral_joinedLines hcleanup, List.forall_mem_nil _⟩
    · simp [Text.IsLiteral]
    · simp [Text.IsLiteral]

/-- The wrapper and the interface have no `$`, and the typemaps can be filled in. -/
structure IsLiteral (bridge : Bridge) : Prop where
  wrapper : bridge.wrapper.IsLiteral
  interface : bridge.interface.IsLiteral
  attachments : ∀ attachments ∈ bridge.attachments, attachments.IsReady

/-- The typemaps that are found for the parameters of a bridge can be filled in. -/
theorem attachments_isReady (hs : sources.IsFillable) (h : callable.IsLiteral)
    (howner : ∀ cls ∈ owner, cls.IsLiteral) :
    Ensures LookupState.IsReady
      ((callable.parametersIn owner).mapM (Lookup.attach sources "in" .required callable.location))
      fun attachments => ∀ a ∈ attachments, a.IsReady := by
  refine .mapM_forall fun parameter hparameter => ?_
  refine Lookup.attach_isReady hs ?_ "in" .required callable.location
  rw [(h.of_mem_parametersIn howner hparameter).2]
  exact Attachments.isReady_empty

/-- The code that frees the arguments has no `$`. -/
theorem cleanups_allLiteral (hs : sources.IsFillable) {slots : List Slot}
    (h : ∀ slot ∈ slots, slot.IsReady) (location : Location) :
    Ensures LookupState.IsReady
      (slots.mapM fun slot => slot.optionalLines sources location slot.replacements "freearg")
      fun cleanups => ∀ lines ∈ cleanups, AllLiteral lines :=
  .mapM_forall fun slot hslot => (h slot hslot).optionalLines_allLiteral hs location rfl
    (h slot hslot).isLiteral_of_mem_replacements

theorem fortranResult_isLiteral (hs : sources.IsFillable) (wrapper : Wrapper) {request : Request}
    (hrequest : request.IsFillable) (htokens : tokensOf request.mainOperation = []) :
    Ensures LookupState.IsReady (wrapper.fortranResult sources request) fun result =>
      ∀ type ∈ result, Text.IsLiteral type := by
  unfold Wrapper.fortranResult
  split
  · exact .pure nofun
  · refine (Lookup.code_readyFor hs hrequest).bind fun code hcode => .pure fun type htype => ?_
    cases htype
    exact hcode.isLiteral htokens

/-- **The bridge of a literal declaration has no `$`.** -/
theorem make_isLiteral (hs : sources.IsFillable) (h : callable.IsLiteral)
    (howner : ∀ cls ∈ owner, cls.IsLiteral) {name : String} (hname : Text.IsLiteral name) :
    EnsuresOk LookupState.IsReady (make sources callable owner name) IsLiteral := by
  have hresult := h.isLiteral_resultIn howner
  have hheld : Text.IsLiteral
      (Held.ofResult sources.decls (callable.resultIn owner)).type.signature :=
    Held.isLiteral_signature hs hresult (Held.root_ofResult sources.decls _)
  have hctype : tokensOf ("ctype" ++ ":" ++ "out") = [] := by decide
  have himtype : tokensOf ("imtype" ++ ":" ++ "out") = [] := by decide
  have hrequest : ∀ operation, tokensOf operation = tokensOf (operation ++ ":" ++ "out") →
      Request.IsFillable
        { operation, suffix := some "out", type := callable.resultIn owner, need := .required,
          location := callable.location } :=
    fun operation htokens => .of_suffix htokens Attachments.isReady_empty
  unfold make
  refine (EnsuresOk.lift (Lookup.code_readyFor hs (hrequest "ctype" hctype.symm))).bind
    fun returnType hreturnType => ?_
  refine (EnsuresOk.lift (attachments_isReady hs h howner)).bind fun attachments hattachments => ?_
  have hslots : ∀ slot ∈ slotsOf sources.decls (callable.parametersIn owner) attachments,
      slot.IsReady := fun slot hslot => isReady_of_mem_slotsOf hs
    (fun parameter hparameter => (h.of_mem_parametersIn howner hparameter).1) hattachments hslot
  refine (EnsuresOk.lift (cleanups_allLiteral hs hslots callable.location)).bind
    fun cleanups hcleanups => ?_
  have hcleanup := allLiteral_flatten hcleanups
  refine (EnsuresOk.lift (.mapM_forall fun slot hslot =>
    (hslots slot hslot).fragments_isLiteral hs callable.location hcleanup)).bind
      fun parts hparts => ?_
  refine (EnsuresOk.liftExcept_ok _).bind fun action haction => ?_
  refine (EnsuresOk.lift (outputLines_allLiteral hs hresult hheld hcleanup)).bind
    fun output houtput => ?_
  refine (EnsuresOk.lift (fortranResult_isLiteral hs _ (hrequest "imtype" himtype.symm)
    himtype)).bind fun fortranResult hfortranResult => .pure ?_
  have harguments : ∀ argument ∈ argumentsOf (slotsOf sources.decls
      (callable.parametersIn owner) attachments) parts, Text.IsLiteral argument.1 ∧
        Text.IsLiteral argument.2.1 ∧ Text.IsLiteral argument.2.2 :=
    fun argument ha => isLiteral_of_mem_argumentsOf hparts ha
  have haction := isLiteral_actionOf h howner hheld haction
  refine ⟨⟨hname, hreturnType.isLiteral hctype, ?_, ?_, ?_⟩, ⟨hname, ?_, hfortranResult⟩,
    hattachments⟩
  · exact List.forall_mem_map.2 fun argument ha =>
      ⟨(harguments argument ha).2.1, (harguments argument ha).1⟩
  · refine List.forall_mem_append.2 ⟨List.forall_mem_map.2 fun slot hslot => ?_, ?_⟩
    · exact ⟨(hslots slot hslot).held, isLiteral_localName slot.number⟩
    · split
      · exact nofun
      · rw [List.forall_mem_singleton]
        exact ⟨hheld, by simp [Text.IsLiteral]⟩
  · simp only [Wrapper.statements, allLiteral_append, hcleanup, houtput, and_true]
    exact ⟨⟨⟨allLiteral_flatMap fun part hpart => (hparts part hpart).input,
      allLiteral_flatMap fun part hpart => (hparts part hpart).check⟩,
      allLiteral_actionLines h haction⟩,
      allLiteral_flatMap fun part hpart => (hparts part hpart).argout⟩
  · exact List.forall_mem_map.2 fun argument ha =>
      ⟨(harguments argument ha).1, (harguments argument ha).2.2⟩

end Bridge

end FortranBindings
