import FortranBindings.Proofs.Declarations.Resolution
import FortranBindings.Proofs.Generator.BindingTables

/-!
# Names that a module uses are defined in it

A module makes names public, and its templates name classes and enums through the token
`$fclassname`. Both kinds of names are written where something is used, and what they stand for is
defined where its declaration is reached, or not at all if another declaration has the name. Public
names are added together with what they stand for (`Session.Exports`), and the first class of each
public name is accepted (`Ledger.find?_accepted`). So no name dangles
(`Generate.usedNames_defined`).
-/

namespace FortranBindings

open Generate

/-- The names that are made public: line by line, and with the groups of overloads. -/
def ModuleParts.exportedNames (parts : ModuleParts) : List String :=
  parts.publics.flatten ++ parts.overloads.names

/-- The enumerators of an enum, its marker first. -/
def Enumeration.enumerators (e : Enumeration) : List (String × Int) :=
  (e.marker?.toList.map fun name => (name, -1)) ++ e.variants

/-- The first enumerator of an enum with a name is its marker. -/
theorem Enumeration.exists_marker {e : Enumeration} (h : e.isAnonymous = false) :
    ∃ marker, e.marker? = some marker ∧ e.enumerators = (marker, -1) :: e.variants := by
  have hmarker : e.marker? = some (e.rename.getD (Text.sanitize e.name)) := by
    rw [marker?, h]
    rfl
  refine ⟨_, hmarker, ?_⟩
  rw [enumerators, hmarker]
  rfl

/-- A name is defined in a module. -/
inductive ModuleParts.Defines (setup : Setup) (parts : ModuleParts) : String → Prop
  /-- As the proxy of a function outside of classes. -/
  | function {callable : Callable} {routine : Routine}
    (hcallable : callable ∈ setup.sources.decls.functions)
    (hproxy : IsProxyOf setup callable none routine) (hroutine : routine ∈ parts.routines) :
    Defines setup parts routine.name
  /-- As a generic interface. -/
  | generic {name : String} (hname : name ∈ parts.overloads.names) : Defines setup parts name
  /-- As the derived type of a class. -/
  | derived {opened : OpenClass} {data : List String}
    (htype : .derived opened data ∈ parts.types) : Defines setup parts opened.name
  /-- As an enumerator. -/
  | enumerator {enumerators : List (String × Int)} {e : String × Int}
    (htype : .enumeration enumerators ∈ parts.types) (he : e ∈ enumerators) :
    Defines setup parts e.1

namespace ModuleParts

variable {setup : Setup} {parts parts' : ModuleParts} {name : String}

/-- What is defined stays so when more is defined. -/
theorem Defines.mono (h : parts.Defines setup name) (hroutines : parts.routines ⊆ parts'.routines)
    (hnames : parts.overloads.names ⊆ parts'.overloads.names)
    (htypes : parts.types ⊆ parts'.types) :
    parts'.Defines setup name := by
  cases h with
  | function hcallable hproxy hroutine => exact .function hcallable hproxy (hroutines hroutine)
  | generic hname => exact .generic (hnames hname)
  | derived htype => exact .derived (htypes htype)
  | enumerator htype he => exact .enumerator (htypes htype) he

/-! ## Public names -/

/-- All names that are made public are defined. -/
def Exports (setup : Setup) (parts : ModuleParts) : Prop :=
  ∀ name ∈ parts.exportedNames, parts.Defines setup name

/-- More is defined, and so is what more is made public line by line. -/
theorem Exports.extend (h : parts.Exports setup) (hroutines : parts.routines ⊆ parts'.routines)
    (hnames : parts.overloads.names ⊆ parts'.overloads.names) (htypes : parts.types ⊆ parts'.types)
    (lines : List (List String)) (hpublics : parts'.publics = parts.publics ++ lines)
    (hlines : ∀ line ∈ lines, ∀ name ∈ line, parts'.Defines setup name) :
    parts'.Exports setup := by
  intro name hname
  rcases List.mem_append.1 hname with hpublic | hgeneric
  · rw [hpublics, List.flatten_append] at hpublic
    rcases List.mem_append.1 hpublic with hold | hnew
    · exact (h name (List.mem_append_left _ hold)).mono hroutines hnames htypes
    · obtain ⟨line, hline, hmem⟩ := List.mem_flatten.1 hnew
      exact hlines line hline name hmem
  · exact .generic hgeneric

end ModuleParts

namespace ModuleParts

variable {setup : Setup} {parts : ModuleParts} {callable : Callable} {owner : Option Class}
  {made : Made} {proxy : Routine}

theorem routines_subset_adding (h : made.proxy? = some proxy) :
    parts.routines ⊆ (parts.adding callable owner made).routines := by
  rw [routines_adding h]
  exact List.subset_append_left ..

theorem names_subset_adding (h : made.proxy? = some proxy) :
    parts.overloads.names ⊆ (parts.adding callable owner made).overloads.names := by
  rw [overloads_adding h]
  split
  · exact fun name hname => (Overloads.mem_names_record _).2 (.inl hname)
  · exact List.Subset.refl _

theorem types_subset_adding : parts.types ⊆ (parts.adding callable owner made).types := by
  rw [types_adding]
  exact List.Subset.refl _

/-- A function is made public by its proxy or by its group. -/
theorem Exports.addingFunction (h : parts.Exports setup) (hmade : made.proxy? = some proxy)
    (hproxy : IsProxyOf setup callable none proxy)
    (hcallable : callable ∈ setup.sources.decls.functions) :
    (parts.adding callable none made).Exports setup := by
  have hroutine : proxy ∈ (parts.adding callable none made).routines := by
    rw [routines_adding hmade]
    exact List.mem_append_right _ List.mem_cons_self
  refine h.extend (routines_subset_adding hmade) (names_subset_adding hmade)
    types_subset_adding (if callable.isOverloaded then [] else [[proxy.name]]) ?_ ?_
  · rw [publics_adding hmade]
    cases callable.isOverloaded with
    | true => exact (List.append_nil _).symm
    | false => rfl
  · intro line hline name hname
    cases hoverloaded : callable.isOverloaded with
    | true =>
      rw [hoverloaded] at hline
      cases hline
    | false =>
      rw [hoverloaded] at hline
      obtain rfl := List.mem_singleton.1 hline
      obtain rfl := List.mem_singleton.1 hname
      exact .function hcallable hproxy hroutine

/-- A member is made public by the derived type of its class. -/
theorem Exports.addingMember (h : parts.Exports setup) (hmade : made.proxy? = some proxy)
    (cls : Class) : (parts.adding callable (some cls) made).Exports setup := by
  refine h.extend (routines_subset_adding hmade) (names_subset_adding hmade)
    types_subset_adding [] ?_ nofun
  rw [publics_adding hmade, List.append_nil]
  exact if_neg fun hnone => Bool.noConfusion hnone.1

/-- Types are made public together. -/
theorem Exports.addingTypes (h : parts.Exports setup) (blocks : List TypeBlock)
    (lines : List (List String))
    (hlines : ∀ line ∈ lines, ∀ name ∈ line, Defines setup { parts with types := blocks } name) :
    Exports setup
      { parts with types := parts.types ++ blocks, publics := parts.publics ++ lines } :=
  h.extend (List.Subset.refl _) (List.Subset.refl _) (List.subset_append_left ..) lines rfl
    fun line hline name hname => (hlines line hline name hname).mono (List.Subset.refl _)
      (List.Subset.refl _) (List.subset_append_right ..)

end ModuleParts

namespace Session

variable {setup : Setup} {session next : Session} {call : Call}

/-- **Every call keeps all public names defined.** -/
theorem Effect.exports (hproxies : setup.config.proxyClasses = true)
    (hcall : ∀ callable, call = .function callable → callable ∈ setup.sources.decls.functions)
    (h : session.state.parts.Exports setup) (heffect : Effect setup session call next) :
    next.state.parts.Exports setup := by
  cases heffect with
  | idle => exact h
  | refused => exact h
  | opened => exact h
  | @function callable made lookups hmake hkind =>
    have hconstructor : callable.kind = .constructor → (none : Option Class).isSome :=
      fun hkind' => absurd hkind' (Callable.ne_constructor hkind)
    obtain ⟨proxy, hproxy, hmade⟩ : ∃ proxy, made.proxy? = some proxy ∧
        IsProxyOf setup callable none proxy :=
      exists_isProxyOf_of_make hproxies hconstructor (fun _ ho => absurd ho (Option.not_mem_none _))
        hmake
    exact h.addingFunction hproxy hmade (hcall callable rfl)
  | @member position callable context made lookups hcontext hmake =>
    obtain ⟨last, hproxy⟩ := proxy?_of_make hproxies hmake
    exact h.addingMember hproxy context.opened.cls
  | @closed position context hcontext =>
    obtain ⟨data, lookups, hclose⟩ := closeClass_eq setup context.opened session.state
    rw [hclose, derivedTypes, if_pos hproxies, if_pos hproxies]
    refine h.addingTypes [.derived context.opened data] [[context.opened.name]] ?_
    intro line hline name hname
    obtain rfl := List.mem_singleton.1 hline
    obtain rfl := List.mem_singleton.1 hname
    exact .derived (List.mem_singleton_self _)
  | enumeration e =>
    let line := e.enumerators.map (·.1)
    let lines := if e.enumerators = [] then [] else [line]
    have hlines : ∀ names ∈ lines, names = line := fun names hnames => by
      by_cases hempty : e.enumerators = []
      · rw [show lines = [] from if_pos hempty] at hnames
        cases hnames
      · rw [show lines = [line] from if_neg hempty] at hnames
        exact List.mem_singleton.1 hnames
    have hall := h.addingTypes [.enumeration e.enumerators] lines fun names hnames name hname => by
      obtain rfl := hlines names hnames
      obtain ⟨enumerator, hmem, rfl⟩ := List.mem_map.1 hname
      exact .enumerator (List.mem_singleton_self _) hmem
    have hpublics : session.state.parts.publics ++ lines =
        if e.enumerators = [] then session.state.parts.publics
        else session.state.parts.publics ++ [line] := by
      unfold lines
      split
      · exact List.append_nil _
      · rfl
    rw [hpublics] at hall
    exact hall

theorem types_subset_step (heffect : Effect setup session call next) :
    session.state.parts.types ⊆ next.state.parts.types := by
  cases heffect with
  | idle => exact List.Subset.refl _
  | refused => exact List.Subset.refl _
  | opened => exact List.Subset.refl _
  | function => exact ModuleParts.types_subset_adding
  | member => exact ModuleParts.types_subset_adding
  | @closed position context hcontext =>
    obtain ⟨data, lookups, hclose⟩ := closeClass_eq setup context.opened session.state
    rw [hclose]
    exact List.subset_append_left ..
  | enumeration e => exact List.subset_append_left ..

theorem types_subset_run (setup : Setup) (session : Session) (calls : List Call) :
    session.state.parts.types ⊆ (session.run setup calls).state.parts.types := by
  let inv (last : Session) : Prop := session.state.parts.types ⊆ last.state.parts.types
  have hinitial : inv session := List.Subset.refl _
  exact run_induct hinitial fun _ _ _ _ h heffect => List.Subset.trans h (types_subset_step heffect)

/-- An enum that was generated has its enumerators in the module. -/
theorem enumeration_mem_types {calls : List Call} {e : Enumeration} (h : .enumeration e ∈ calls) :
    .enumeration e.enumerators ∈ (session.run setup calls).state.parts.types := by
  obtain ⟨before, after, rfl⟩ := List.append_of_mem h
  rw [run_append, run_cons]
  refine types_subset_run setup _ after ?_
  exact List.mem_append_right _ (List.mem_singleton_self _)

end Session

/-! ## Class names -/

namespace Generate

variable {setup : Setup} {type : CxxType}

/-- The token for the class name stands for a known name, and naming it leaves nothing behind. -/
def Names (sources : Sources) (type : CxxType) (name : String) : Prop :=
  ∀ text location lookups, Text.mentions text classToken = true →
    (Lookup.substituteClassName? sources type text location).run lookups =
      (some (Text.substitute text [(classToken, name)]), lookups)

theorem names_of_fortranName? {sources : Sources} {name : String}
    (h : sources.fortranName? type = some name) : Names sources type name := by
  intro text location lookups hmentions
  rw [Lookup.substituteClassName?_run, if_pos hmentions, LookupState.naming_of_some h,
    Lookup.classNameOf, h, Option.getD_some]

/-- A module has one derived type of the public name of each class, accepted or not. -/
theorem Describes.count_derivedName? {entries : List Entry} {shells : List String}
    {state : GeneratorState} (h : Describes setup entries [] shells state)
    (hproxies : setup.config.proxyClasses = true) {cls : Class}
    (hcls : cls ∈ entries.filterMap Entry.class?) :
    (state.parts.types.filterMap TypeBlock.derivedName?).count cls.publicName = 1 := by
  have hnames := h.holds.derivedNames hproxies
  rw [List.append_nil] at hnames
  rw [hnames]
  exact List.count_eq_one_of_mem (Ledger.nodup_publicNames_classes setup entries)
    (Ledger.mem_publicNames_classes hcls)

/-- The finished module has the types and the public names of the session and shells besides. -/
theorem finalState_parts (h : ∀ f ∈ setup.sources.decls.functions, f.kind = .freeFunction) :
    setup.session.state.parts.types ⊆ (finalState setup).parts.types ∧
      (setup.session.state.parts.Exports setup → (finalState setup).parts.Exports setup) := by
  obtain ⟨blocks, lookups, -, hfinal, -⟩ := finalState_session h
  rw [hfinal]
  refine ⟨List.subset_append_left .., fun hexports => ?_⟩
  have hmore := hexports.addingTypes blocks [] nofun
  rw [List.append_nil] at hmore
  exact hmore

/-- **No name dangles.** In a module with proxies every public name is defined. Where the token for
the class name is replaced for a type that is built on a declared class, there is one derived type
of the name that is put in, even if that class was left out because another one has its public name.
Where this is done for an enum with a name, the name is the marker in its block of enumerators. The
public names and the definitions are lines of the Fortran source. -/
theorem usedNames_defined {module : GeneratedModule} (hproxies : setup.config.proxyClasses = true)
    (h : generate setup = .ok module) :
    module.fortranSource =
      (finalState setup).parts.fortranSource setup.config setup.moduleName ∧
    (∀ name ∈ (finalState setup).parts.exportedNames,
      (finalState setup).parts.Defines setup name) ∧
    (∀ type cls, setup.sources.decls.categorize type = .ok (.cls cls) →
      Names setup.sources type cls.publicName ∧
      ((finalState setup).parts.types.filterMap TypeBlock.derivedName?).count cls.publicName = 1) ∧
    (∀ type e, setup.sources.decls.categorize type = .ok (.enumeration e) → e.isAnonymous = false →
      ∃ marker, e.marker? = some marker ∧ Names setup.sources type marker ∧
        .enumeration ((marker, -1) :: e.variants) ∈ (finalState setup).parts.types) ∧
    module.HasLines
      ((finalState setup).parts.lines setup.sources.decls setup.config) := by
  have hfree := freeFunction_of_generate h
  obtain ⟨shells, hgenerate, hstate, -, -⟩ := generate_describes hfree
  obtain ⟨htypes, hexports⟩ := finalState_parts hfree
  cases h.symm.trans hgenerate
  refine ⟨rfl, hexports ?_, fun type cls htype => ?_, fun type e htype hnamed => ?_,
    writtenOut_hasLines setup _⟩
  · let inv (session : Session) : Prop := session.state.parts.Exports setup
    have hinitial : inv {} := nofun
    refine Session.run_induct hinitial fun call hcall _ _ hinv heffect => ?_
    refine heffect.exports hproxies (fun callable heq => ?_) hinv
    exact Declarations.mem_functions_of_mem_calls (heq ▸ hcall)
  · refine ⟨names_of_fortranName? ?_, hstate.count_derivedName? hproxies ?_⟩
    · rw [Sources.fortranName?, Declarations.categorize_bare_resolveOrKeep htype]
    · rw [Declarations.filterMap_class?_entries]
      exact (Declarations.mem_of_categorize htype).1 cls rfl
  · obtain ⟨marker, hmarker, henumerators⟩ := Enumeration.exists_marker hnamed
    refine ⟨marker, hmarker, names_of_fortranName? ?_, htypes ?_⟩
    · rw [Sources.fortranName?, Declarations.categorize_bare_resolveOrKeep htype]
      dsimp only
      rw [hmarker]
      rfl
    · rw [← henumerators]
      exact Session.enumeration_mem_types (Declarations.mem_calls_of_mem_enumerations
        ((Declarations.mem_of_categorize htype).2 e rfl))

/-- A library with two classes of one public name, an enum that has another name in Fortran and two
variants of a function. -/
def twinSetup : Setup where
  sources := ⟨
    { name := ""
      items := [
        .function { name := "tune", kind := .freeFunction },
        .cls { name := "old::Radio" },
        .function { name := "mix", kind := .freeFunction, overload := some "_1" },
        .cls { name := "Radio", location := { line := 7 } },
        .enumeration band,
        .function { name := "mix", kind := .freeFunction, overload := some "_2" }] },
    fun _ _ => none⟩
  config := {}
where
  band : Enumeration := { name := "Band", rename := some "RadioBand", variants := [("AM", 0)] }

theorem usedNames_defined_of_twins : twinSetup.config.proxyClasses = true ∧
    ∃ module, generate twinSetup = .ok module ∧ module.hasErrors = true ∧
      (finalState twinSetup).parts.exportedNames = ["tune", "Radio", "RadioBand", "AM", "mix"] ∧
      (∀ name ∈ (finalState twinSetup).parts.exportedNames,
        (finalState twinSetup).parts.Defines twinSetup name) ∧
      ((finalState twinSetup).parts.types.filterMap TypeBlock.derivedName?).count "Radio" = 1 ∧
      Names twinSetup.sources (.lvalueReference (.named "Radio")) "Radio" ∧
      Names twinSetup.sources (.named "Band") "RadioBand" ∧
      .enumeration [("RadioBand", -1), ("AM", 0)] ∈ (finalState twinSetup).parts.types := by
  have hproxies : twinSetup.config.proxyClasses = true := rfl
  have hfree : ∀ f ∈ twinSetup.sources.decls.functions, f.kind = .freeFunction := by decide
  obtain ⟨shells, hgenerate, -, -, -⟩ := generate_describes hfree
  obtain ⟨-, hdefined, hclasses, henums, -⟩ := usedNames_defined hproxies hgenerate
  have hradio : twinSetup.sources.decls.categorize (.lvalueReference (.named "Radio")) =
      .ok (.cls { name := "Radio", location := { line := 7 } }) := by decide +kernel
  have hband : twinSetup.sources.decls.categorize (.named "Band") =
      .ok (.enumeration twinSetup.band) := by decide +kernel
  obtain ⟨hname, hcount⟩ := hclasses _ _ hradio
  obtain ⟨marker, hmarker, hnamed, hmem⟩ := henums _ _ hband rfl
  cases hmarker
  refine ⟨hproxies, _, hgenerate, ?_, ?_, hdefined, hcount, hname, hnamed, hmem⟩
  · decide +kernel
  · decide +kernel

end Generate

end FortranBindings
