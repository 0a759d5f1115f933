import FortranBindings.Proofs.Generator.Results
import FortranBindings.Proofs.Generator.Settled
import FortranBindings.Proofs.Text.Lines
import FortranBindings.Proofs.Text.Tokens

/-!
# The sections of a wrapper

Behind its declarations a wrapper has the code of its templates: first the code for `in` of all
parameters in their order, then that for `check`, the action, the code for `out`, then that for
`argout` and that for `freearg`, again of all parameters (`Bridge.HasSections`,
`Bridge.make_hasSections`). Every parameter has its part in each of them, also if it takes no
argument. Code that may leave the wrapper early repeats what frees the arguments by the token
`$cleanup`, which stands for the lines of the last section (`Bridge.RepeatsCleanup`).
-/

namespace FortranBindings

open Text

variable {sources : Sources} {types : List CxxType} {state : LookupState} {request : Request}
  {callable : Callable} {owner : Option Class}

/-! ## Templates found later -/

namespace Lookup

/-- The typemap is what a request finds in a state that lookups lead to. -/
def Finds (sources : Sources) (types : List CxxType) (state : LookupState) (request : Request)
    (found : Option Typemap) : Prop :=
  ∃ next, Leads sources types state next ∧ found = ((find sources request).run next).1

/-- Plain lookups on the way do not change the typemap that is found. -/
theorem Finds.eq_answer? {found : Option Typemap} (h : Finds sources types state request found)
    (hstate : state.Sound sources) (htypes : ∀ type ∈ types, type.IsSpelled)
    (hrequest : request.IsPlain) : found = answer? sources request := by
  obtain ⟨next, hnext, rfl⟩ := h
  exact (find_ensures hrequest next (hnext.sound hstate htypes)).1

theorem find_finds (hop : ':' ∉ request.operation.toList) (htype : request.type ∈ types) :
    Ensures (Leads sources types state) (find sources request)
      (Finds sources types state request) :=
  fun next hnext => ⟨⟨next, hnext, rfl⟩, hnext.find hop htype⟩

end Lookup

namespace Bridge

/-! ## The token for the cleanup -/

/-- What tokens stand for in code that may leave the wrapper early. -/
def withCleanup (replacements : Replacements) (cleanup : List String) : Replacements :=
  replacements ++ [("$cleanup", joinedLines cleanup)]

/-- The token `$cleanup` stands for some lines, wherever it is in a template. Where it has a line of
its own, there are these lines instead, up to indentation. -/
structure RepeatsCleanup (replacements : Replacements) (cleanup : List String) : Prop where
  lines : codeLines (joinedLines cleanup) = cleanup
  anywhere : ∀ before after, substitute (before ++ "$cleanup" ++ after) replacements =
    substitute before replacements ++ joinedLines cleanup ++ substitute after replacements
  ownLine : ∀ before indent after : String, '\n' ∉ indent.toList →
    (∀ c ∈ indent.toList, isBlank c = true) → ∃ repeated,
      codeLines (substitute (before ++ "\n" ++ indent ++ "$cleanup" ++ "\n" ++ after)
          replacements) =
        codeLines (substitute before replacements) ++ repeated ++
          codeLines (substitute after replacements) ∧
      dedented repeated = dedented cleanup

/-- A token beside `$cleanup`: neither is a start of the other, and it does not go on over a `$` or
a line break. -/
def IsBesideCleanup (token : String) : Prop :=
  Template.Apart token "$cleanup" ∧ '$' ∉ token.toList.tail ∧ '\n' ∉ token.toList.tail

instance : DecidablePred IsBesideCleanup := fun _ => inferInstanceAs (Decidable (_ ∧ _))

theorem onlyBegins_withCleanup {replacements : Replacements} {d : Char}
    (h : ∀ pair ∈ replacements, d ∉ pair.1.toList.tail) (hd : d ∉ "$cleanup".toList.tail)
    (cleanup : List String) : Template.OnlyBegins d (withCleanup replacements cleanup) := by
  intro pair hpair
  rcases List.mem_append.1 hpair with hpair | hpair
  · exact h pair hpair
  · exact List.mem_singleton.1 hpair ▸ hd

/-- **The cleanup is repeated** where its token stands, if the other tokens are beside it. -/
theorem repeatsCleanup {replacements : Replacements} {cleanup : List String}
    (h : ∀ token ∈ replacements.map (·.1), IsBesideCleanup token)
    (hcleanup : ∀ line ∈ cleanup, IsCodeLine line) :
    RepeatsCleanup (withCleanup replacements cleanup) cleanup := by
  have hbeside : ∀ pair ∈ replacements, IsBesideCleanup pair.1 := List.forall_mem_map.1 h
  have hdollar : Template.OnlyBegins '$' (withCleanup replacements cleanup) :=
    onlyBegins_withCleanup (fun pair hpair => (hbeside pair hpair).2.1) (by decide) cleanup
  have hnewline : Template.OnlyBegins '\n' (withCleanup replacements cleanup) :=
    onlyBegins_withCleanup (fun pair hpair => (hbeside pair hpair).2.2) (by decide) cleanup
  have hanywhere : ∀ before after : String,
      substitute (before ++ "$cleanup" ++ after) (withCleanup replacements cleanup) =
        substitute before (withCleanup replacements cleanup) ++ joinedLines cleanup ++
          substitute after (withCleanup replacements cleanup) :=
    substitute_last rfl (fun pair hpair => (hbeside pair hpair).1) _ hdollar
  refine ⟨codeLines_joinedLines hcleanup, hanywhere, fun before indent after hindent hblank => ?_⟩
  refine ⟨codeLines (indent ++ joinedLines cleanup), ?_,
    dedented_codeLines_append hindent hblank hcleanup⟩
  -- The template falls apart at the two line breaks around the token.
  have hliteral : Text.IsLiteral ("\n" ++ indent) := by
    refine Text.isLiteral_append.2 ⟨by decide, fun hmem => ?_⟩
    exact absurd (hblank '$' hmem) (by decide)
  have hbefore : substitute (before ++ ("\n" ++ indent)) (withCleanup replacements cleanup) =
      substitute before (withCleanup replacements cleanup) ++ ("\n" ++ indent) := by
    rw [substitute_append hnewline (String.toList_append ..), substitute_of_isLiteral hliteral]
  have hafter : substitute ("\n" ++ after) (withCleanup replacements cleanup) =
      "\n" ++ substitute after (withCleanup replacements cleanup) :=
    substitute_append_of_isLiteral (by decide) after
  have htemplate : before ++ "\n" ++ indent ++ "$cleanup" ++ "\n" ++ after =
      before ++ ("\n" ++ indent) ++ "$cleanup" ++ ("\n" ++ after) := by
    simp only [String.append_assoc]
  have hlines (start rest : String) : start ++ ("\n" ++ indent) ++ joinedLines cleanup ++
      ("\n" ++ rest) = start ++ "\n" ++ (indent ++ joinedLines cleanup ++ "\n" ++ rest) := by
    simp only [String.append_assoc]
  rw [htemplate, hanywhere, hbefore, hafter, hlines, codeLines_append, codeLines_append,
    List.append_assoc]

/-! ## The code of a parameter -/

/-- The lines of the code that is made of the templates of a parameter. -/
structure ParameterCode where
  input : List String
  check : List String
  argout : List String
  cleanup : List String

/-- The lines are those of the template that a request finds, with its tokens filled in. There are
none if it finds no template. -/
def IsCodeOf (IsFound : Request → Option Typemap → Prop) (request : Request)
    (replacements : Replacements) (lines : List String) : Prop :=
  ∃ template, IsFound request template ∧
    lines = template.elim [] fun t => codeLines (substitute t.code replacements)

/-- The code of a parameter is that of the templates that are found for it. `cleanup` are the lines
that free all arguments. -/
structure Slot.HasCode (IsFound : Request → Option Typemap → Prop) (location : Location)
    (cleanup : List String) (slot : Slot) (code : ParameterCode) : Prop where
  input : IsCodeOf IsFound (slot.request location .required "in") slot.replacements code.input
  check : IsCodeOf IsFound (slot.request location .optional "check")
    (withCleanup slot.replacements cleanup) code.check
  argout : IsCodeOf IsFound (slot.request location .optional "argout")
    (withCleanup slot.replacements cleanup) code.argout
  cleanup : IsCodeOf IsFound (slot.request location .optional "freearg") slot.replacements
    code.cleanup

/-- The lines of the fragments of all parameters, put together section by section. -/
theorem exists_codes {IsFound : Request → Option Typemap → Prop} {slots : List Slot}
    {location : Location} {cleanup : List String} {cleanups : List (List String)}
    {parts : List Fragments}
    (hcleanups : List.Forall₂ (fun slot lines => IsCodeOf IsFound
      (slot.request location .optional "freearg") slot.replacements lines) slots cleanups)
    (hparts : List.Forall₂ (fun slot part => ∀ lines, IsCodeOf IsFound
        (slot.request location .optional "freearg") slot.replacements lines →
      slot.HasCode IsFound location cleanup ⟨part.input, part.check, part.argout, lines⟩)
      slots parts) :
    ∃ codes, List.Forall₂ (Slot.HasCode IsFound location cleanup) slots codes ∧
      parts.flatMap (·.input) = codes.flatMap (·.input) ∧
      parts.flatMap (·.check) = codes.flatMap (·.check) ∧
      parts.flatMap (·.argout) = codes.flatMap (·.argout) ∧
      cleanups.flatten = codes.flatMap (·.cleanup) := by
  induction hcleanups generalizing parts with
  | nil =>
    cases hparts
    exact ⟨[], .nil, rfl, rfl, rfl, rfl⟩
  | @cons slot lines slots cleanups hlines _ ih =>
    cases hparts with
    | @cons _ part _ parts hpart hparts =>
      obtain ⟨codes, hcodes, hinput, hcheck, hargout, hcleanup⟩ := ih hparts
      refine ⟨⟨part.input, part.check, part.argout, lines⟩ :: codes,
        .cons (hpart lines hlines) hcodes, ?_, ?_, ?_, ?_⟩
      · rw [List.flatMap_cons, List.flatMap_cons, hinput]
      · rw [List.flatMap_cons, List.flatMap_cons, hcheck]
      · rw [List.flatMap_cons, List.flatMap_cons, hargout]
      · rw [List.flatten_cons, List.flatMap_cons, hcleanup]

/-- The typemaps are those of a parameter, together with the one found for `in` if it has none. -/
def IsAttached (IsFound : Request → Option Typemap → Prop) (location : Location)
    (parameter : Parameter) (attachments : Attachments) : Prop :=
  if parameter.typemaps.contains "in" then attachments = parameter.typemaps
  else ∃ typemap, IsFound { operation := "in", type := parameter.type, need := .required, location }
      (some typemap) ∧ attachments = parameter.typemaps.insert "in" typemap

/-- What tokens stand for in the code that makes what is returned, apart from the cleanup. -/
def resultReplacements (callable : Callable) (result : CxxType) (held : Held) : Replacements := [
  ("$result", "fresult"),
  ("$1", "result"),
  ("$1_ltype", held.type.signature),
  ("$1_basetype", result.bare.signature),
  ("$owner", if callable.features.newObject then "1" else "0")]

/-- The sections of a wrapper are put together from the code of all parameters in their order, the
action, and the code for the result unless it is `void`. What counts as found is up to `IsFound`. -/
structure HasSections (IsFound : Request → Option Typemap → Prop) (decls : Declarations)
    (callable : Callable) (owner : Option Class) (codes : List ParameterCode) (bridge : Bridge) :
    Prop where
  parameters : bridge.parameters = callable.parametersIn owner
  attachments : List.Forall₂ (IsAttached IsFound callable.location) bridge.parameters
    bridge.attachments
  code : List.Forall₂ (Slot.HasCode IsFound callable.location bridge.wrapper.cleanup)
    (slotsOf decls bridge.parameters bridge.attachments) codes
  input : bridge.wrapper.input = codes.flatMap (·.input)
  check : bridge.wrapper.check = codes.flatMap (·.check)
  action : ∃ action, actionOf callable owner (slotsOf decls bridge.parameters bridge.attachments)
      (callable.resultIn owner) (Held.ofResult decls (callable.resultIn owner)) = .ok action ∧
    bridge.wrapper.action = actionLines callable action
  output : if (callable.resultIn owner).isVoid then bridge.wrapper.output = []
    else IsCodeOf IsFound
      { operation := "out", type := callable.resultIn owner, need := .required,
        location := callable.location }
      (withCleanup (resultReplacements callable (callable.resultIn owner)
        (Held.ofResult decls (callable.resultIn owner))) bridge.wrapper.cleanup)
      bridge.wrapper.output
  argout : bridge.wrapper.argout = codes.flatMap (·.argout)
  cleanup : bridge.wrapper.cleanup = codes.flatMap (·.cleanup)

section

-- What is proved here holds of the lookups in any state, as long as all that is asked is found in
-- some sense.
variable {inv : LookupState → Prop} {IsFound : Request → Option Typemap → Prop}
  (hfind : ∀ request, Asked callable owner request →
    Ensures inv (Lookup.find sources request) (IsFound request))

include hfind

theorem attach_isAttached {parameter : Parameter} (h : parameter ∈ callable.parametersIn owner)
    (location : Location) :
    Ensures inv (Lookup.attach sources "in" .required location parameter)
      (IsAttached IsFound location parameter) := by
  unfold Lookup.attach IsAttached
  split
  · exact .pure rfl
  · have hrequest : Asked callable owner
        { operation := "in", type := parameter.type, need := .required, location } :=
      .parameter h (by decide) _ _
    have hsome : Ensures inv (Lookup.find sources
        { operation := "in", type := parameter.type, need := .required, location })
        fun found => found.isSome ∧ IsFound
          { operation := "in", type := parameter.type, need := .required, location } found :=
      fun state hs => ⟨⟨(Lookup.find_ensures_of_required rfl state trivial).1,
        (hfind _ hrequest state hs).1⟩, (hfind _ hrequest state hs).2⟩
    refine hsome.bind ?_
    rintro found ⟨hfound, hisFound⟩
    obtain ⟨typemap, rfl⟩ := Option.isSome_iff_exists.1 hfound
    exact .pure ⟨typemap, hisFound, rfl⟩

theorem Slot.optionalLines_isCodeOf {slot : Slot}
    (h : slot.parameter ∈ callable.parametersIn owner) (location : Location)
    (replacements : Replacements) {operation : String}
    (hop : operation ∈ ["freearg", "check", "argout"]) :
    Ensures inv (slot.optionalLines sources location replacements operation)
      (IsCodeOf IsFound (slot.request location .optional operation) replacements) := by
  refine (hfind _ (.option h hop _ _)).bind fun found hfound => ?_
  cases found with
  | some typemap =>
    refine .pure ⟨some typemap, hfound, ?_⟩
    rw [Option.elim_some]
  | none => exact .pure ⟨none, hfound, rfl⟩

theorem argument_keeps {slot : Slot} (h : slot.parameter ∈ callable.parametersIn owner)
    (location : Location) (input : Option Typemap) :
    Ensures inv (slot.argument sources location input) fun _ => True :=
  (slot.argument_asks h location input).ensures fun request hrequest =>
    (hfind request hrequest).mono fun _ _ => trivial

/-- What the fragments of a parameter have besides the code that frees it. -/
theorem fragments_hasCode {slot : Slot} (h : slot.parameter ∈ callable.parametersIn owner)
    (location : Location) (cleanup : List String) :
    Ensures inv (fragments sources location cleanup slot) fun part =>
      ∀ lines, IsCodeOf IsFound (slot.request location .optional "freearg") slot.replacements
          lines →
        slot.HasCode IsFound location cleanup ⟨part.input, part.check, part.argout, lines⟩ := by
  refine (hfind _ (.parameter h (by decide) _ _)).bind fun template htemplate => ?_
  refine (argument_keeps hfind h _ _).bind fun argument _ => ?_
  refine (Slot.optionalLines_isCodeOf hfind h _ _ (by decide)).bind fun check hcheck => ?_
  refine (Slot.optionalLines_isCodeOf hfind h _ _ (by decide)).bind fun argout hargout => ?_
  exact .pure fun lines hlines => ⟨⟨template, htemplate, rfl⟩, hcheck, hargout, hlines⟩

/-- The code of what is found, which is empty if nothing is found. -/
theorem code_isFound (h : Asked callable owner request) :
    Ensures inv (Lookup.code sources request) fun code => ∃ found,
      IsFound request found ∧ code = (found.map Typemap.code).getD "" :=
  (hfind request h).bind fun found hfound => .pure ⟨found, hfound, rfl⟩

theorem outputLines_isCodeOf (held : Held) (cleanup : List String) :
    Ensures inv (outputLines sources callable (callable.resultIn owner) held cleanup) fun lines =>
      if (callable.resultIn owner).isVoid then lines = []
      else IsCodeOf IsFound
        { operation := "out", type := callable.resultIn owner, need := .required,
          location := callable.location }
        (withCleanup (resultReplacements callable (callable.resultIn owner) held) cleanup)
        lines := by
  unfold outputLines
  split
  · exact .pure rfl
  · refine (code_isFound hfind (.result (by decide) _)).bind ?_
    rintro code ⟨found, hfound, rfl⟩
    refine .pure ⟨found, hfound, ?_⟩
    cases found with
    | some typemap =>
      rw [Option.elim_some]
      rfl
    | none =>
      have hempty : ∀ replacements, codeLines (substitute "" replacements) = [] := fun _ => rfl
      exact hempty _

end

/-- **Making a bridge puts the sections together**, whatever it is that the requests find. -/
theorem make_hasSections {inv : LookupState → Prop} {IsFound : Request → Option Typemap → Prop}
    (hfind : ∀ request, Asked callable owner request →
      Ensures inv (Lookup.find sources request) (IsFound request)) (name : String) :
    EnsuresOk inv (make sources callable owner name) fun bridge =>
      ∃ codes, HasSections IsFound sources.decls callable owner codes bridge := by
  unfold make
  refine (EnsuresOk.lift (code_isFound hfind (.result (by decide) _))).bind
    fun returnType _ => ?_
  refine (EnsuresOk.lift (.mapM fun p hp => attach_isAttached hfind hp _)).bind
    fun attachments hattachments => ?_
  refine (EnsuresOk.lift (.mapM fun slot hs => Slot.optionalLines_isCodeOf hfind
    (parameter_mem_of_mem_slotsOf hs) _ _ (by decide))).bind fun cleanups hcleanups => ?_
  refine (EnsuresOk.lift (.mapM fun slot hs => fragments_hasCode hfind
    (parameter_mem_of_mem_slotsOf hs) _ _)).bind fun parts hparts => ?_
  refine (EnsuresOk.liftExcept_ok _).bind fun action haction => ?_
  refine (EnsuresOk.lift (outputLines_isCodeOf hfind _ _)).bind fun output houtput => ?_
  refine (EnsuresOk.lift ((fortranResult_asks _ _).ensures fun request hrequest =>
    (hfind request hrequest).mono fun _ _ => trivial)).bind fun _ _ => .pure ?_
  obtain ⟨codes, hcode, hinput, hcheck, hargout, hcleanup⟩ := exists_codes hcleanups hparts
  exact ⟨codes, rfl, hattachments, hcode, hinput, hcheck, ⟨action, haction, rfl⟩, houtput,
    hargout, hcleanup⟩

/-! ## Lines and tokens of the sections -/

variable {IsFound : Request → Option Typemap → Prop} {codes : List ParameterCode}
  {decls : Declarations} {made : Bridge} {cleanup : List String}

theorem IsCodeOf.isCodeLine {replacements : Replacements} {lines : List String}
    (h : IsCodeOf IsFound request replacements lines) : ∀ line ∈ lines, IsCodeLine line := by
  obtain ⟨template, -, rfl⟩ := h
  cases template with
  | none => exact nofun
  | some typemap =>
    rw [Option.elim_some]
    exact fun line => isCodeLine_of_mem

theorem isCodeLine_actionLines (callable : Callable) (action : String) :
    ∀ line ∈ actionLines callable action, IsCodeLine line := by
  unfold actionLines
  split <;> exact fun line => isCodeLine_of_mem

/-- All that is made of the templates of a parameter are lines of code. -/
theorem Slot.HasCode.isCodeLine {slot : Slot} {location : Location} {code : ParameterCode}
    (h : slot.HasCode IsFound location cleanup code) :
    ∀ lines ∈ [code.input, code.check, code.argout, code.cleanup], ∀ line ∈ lines,
      IsCodeLine line := by
  simp only [List.forall_mem_cons, List.not_mem_nil, false_imp_iff, implies_true, and_true]
  exact ⟨h.input.isCodeLine, h.check.isCodeLine, h.argout.isCodeLine, h.cleanup.isCodeLine⟩

/-- So are those of all parameters in one section. -/
theorem isCodeLine_flatMap {slots : List Slot} {location : Location}
    (h : List.Forall₂ (Slot.HasCode IsFound location cleanup) slots codes)
    {part : ParameterCode → List String}
    (hpart : ∀ code, part code ∈ [code.input, code.check, code.argout, code.cleanup]) :
    ∀ line ∈ codes.flatMap part, IsCodeLine line := by
  induction h with
  | nil => exact nofun
  | @cons slot code slots codes hcode _ ih =>
    intro line hline
    rw [List.flatMap_cons, List.mem_append] at hline
    exact hline.elim (hcode.isCodeLine _ (hpart code) line) (ih line)

namespace HasSections

/-- The sections have lines of code only. -/
theorem isCodeLine (h : HasSections IsFound decls callable owner codes made) :
    ∀ line ∈ made.wrapper.statements, IsCodeLine line := by
  obtain ⟨action, -, haction⟩ := h.action
  have houtput : ∀ line ∈ made.wrapper.output, IsCodeLine line := by
    have hcode := h.output
    split at hcode
    · rw [hcode]
      exact nofun
    · exact hcode.isCodeLine
  intro line hline
  rw [Wrapper.statements, h.input, h.check, haction, h.argout, h.cleanup] at hline
  simp only [List.mem_append] at hline
  rcases hline with ((((hline | hline) | hline) | hline) | hline) | hline
  · exact isCodeLine_flatMap h.code (fun _ => by simp) line hline
  · exact isCodeLine_flatMap h.code (fun _ => by simp) line hline
  · exact isCodeLine_actionLines callable action line hline
  · exact houtput line hline
  · exact isCodeLine_flatMap h.code (fun _ => by simp) line hline
  · exact isCodeLine_flatMap h.code (fun _ => by simp) line hline

theorem isCodeLine_cleanup (h : HasSections IsFound decls callable owner codes made) :
    ∀ line ∈ made.wrapper.cleanup, IsCodeLine line :=
  fun line hline => h.isCodeLine line (List.mem_append_right _ hline)

end HasSections

theorem repeatsCleanup_slot (slot : Slot) (hcleanup : ∀ line ∈ cleanup, IsCodeLine line) :
    RepeatsCleanup (withCleanup slot.replacements cleanup) cleanup := by
  have hbeside : ∀ token ∈ ["$input", "$1", "$1_ltype", "$1_basetype"], IsBesideCleanup token := by
    decide
  exact repeatsCleanup hbeside hcleanup

theorem repeatsCleanup_result (callable : Callable) (result : CxxType) (held : Held)
    (hcleanup : ∀ line ∈ cleanup, IsCodeLine line) :
    RepeatsCleanup (withCleanup (resultReplacements callable result held) cleanup) cleanup := by
  have hbeside : ∀ token ∈ ["$result", "$1", "$1_ltype", "$1_basetype", "$owner"],
      IsBesideCleanup token := by
    decide
  exact repeatsCleanup hbeside hcleanup

end Bridge

/-! ## The source of a wrapper -/

namespace Wrapper

/-- The source of a wrapper up to the blank line behind the declarations. -/
def declarations (wrapper : Wrapper) : String :=
  wrapper.header ++
    (if wrapper.isSubroutine then "" else localLine (wrapper.returnType, "fresult")) ++
    String.join (wrapper.locals.map localLine) ++ "\n"

/-- The line that returns the result of a function. -/
def returnLine (wrapper : Wrapper) : String :=
  if wrapper.isSubroutine then "" else "  return (" ++ wrapper.returnType ++ ")fresult;\n"

theorem render_eq (wrapper : Wrapper) : wrapper.render =
    wrapper.declarations ++ indented "  " wrapper.statements ++ wrapper.returnLine ++
      "\x7d\n\n" := rfl

end Wrapper

namespace Generate

open Bridge

variable {setup : Setup} {state : GeneratorState} {made : Bridge}

/-- A generator without any templates of its own. -/
def bareSetup : Setup := ⟨⟨{ name := "bare" }, fun _ _ => none⟩, {}⟩

/-- A function that checks its first parameter before it is called, and grabs the second one. -/
def copy : Callable where
  name := "copy"
  kind := .freeFunction
  parameters := [
    { name := "source", type := .builtin .int, typemaps := Dict.ofList [
      ("in", { code := "$1 = $input;" }),
      ("check", { code := "if (!$1) \x7b\n  $cleanup\n  return;\n\x7d" })] },
    { name := "target", type := .builtin .int, typemaps := Dict.ofList [
      ("in", { code := "$1 = grab();", numInputs := some 0 }),
      ("argout", { code := "\n  keep($1);  " }),
      ("freearg", { code := "release($1);" })] }]
  action := some "copy(arg1, arg2);"

/-- The code of its wrapper. The second parameter is freed where the check leaves the wrapper, and
again at the end. -/
def copyLines : List String :=
  ["arg1 = farg1;", "arg2 = grab();", "if (!arg1) \x7b", "  release(arg2);", "  return;", "\x7d",
    "copy(arg1, arg2);", "  keep(arg2);", "release(arg2);"]

end Generate

end FortranBindings
