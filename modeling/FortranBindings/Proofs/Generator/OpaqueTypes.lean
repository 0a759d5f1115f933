import FortranBindings.Proofs.Generator.Coverage
import FortranBindings.Proofs.Generator.Sessions
import FortranBindings.Proofs.Template.Placeholders

/-!
# Placeholder classes and their shells

Templates name placeholder classes where they need a class that is not known. At the end a module
gets a shell for each placeholder that was noted until then. The data of a shell is looked up as
well, and the template for it can name one more placeholder, which gets no shell
(`Generate.opaqueTypes_declared_iff`, `Generate.not_opaqueTypes_declared`).
-/

namespace FortranBindings

variable {sources : Sources} {request : Request}

/-- Under the operation for the data of derived types nothing else is looked up. -/
def Request.KeysData (request : Request) : Prop :=
  request.mainOperation = "fdata" → ∃ className location, request = dataRequest className location

theorem Request.keysData_of_operation {operation : String}
    (hoperation : request.mainOperation = operation) (h : operation ≠ "fdata") :
    request.KeysData :=
  fun hdata => absurd (hoperation.symm.trans hdata) h

theorem Bridge.Asked.keysData {callable : Callable} {owner : Option Class}
    (h : Bridge.Asked callable owner request) : request.KeysData := by
  cases h with
  | parameter hparameter hop =>
    have hall : ∀ operation ∈ ["in", "ctype", "imtype"], operation ≠ "fdata" := by decide
    exact Request.keysData_of_operation rfl (hall _ hop)
  | option hparameter hop =>
    have hall : ∀ operation ∈ ["freearg", "check", "argout"], operation ≠ "fdata" := by decide
    exact Request.keysData_of_operation rfl (hall _ hop)
  | @result operation suffix hop location =>
    have hall : ∀ operation ∈ ["ctype:out", "imtype:out", "out"], operation ≠ "fdata" := by decide
    simp only [List.mem_cons, List.not_mem_nil, or_false, Prod.mk.injEq] at hop
    rcases hop with ⟨rfl, rfl⟩ | ⟨rfl, rfl⟩ | ⟨rfl, rfl⟩
    · exact Request.keysData_of_operation rfl (hall "ctype:out" (.head _))
    · exact Request.keysData_of_operation rfl (hall "imtype:out" (.tail _ (.head _)))
    · exact Request.keysData_of_operation rfl (hall "out" (.tail _ (.tail _ (.head _))))

theorem Proxy.Asked.keysData {bridge : Bridge} {mode : ProxyMode}
    (h : Proxy.Asked bridge mode request) : request.KeysData := by
  cases h with
  | parameter hparameter hop =>
    have hall : ∀ operation ∈ ["ftype", "fin"], operation ≠ "fdata" := by decide
    exact Request.keysData_of_operation rfl (hall _ hop)
  | option hparameter hop =>
    have hall : ∀ operation ∈ ["fpre", "fpost"], operation ≠ "fdata" := by decide
    exact Request.keysData_of_operation rfl (hall _ hop)
  | result hmode location =>
    have hftype : "ftype:out" ≠ "fdata" := by decide
    exact Request.keysData_of_operation rfl hftype
  | body location =>
    have hall : ∀ operation ∈ ["fout", "fcreate", "frelease"], operation ≠ "fdata" := by decide
    refine Request.keysData_of_operation rfl (hall _ ?_)
    cases mode
    · exact .head _
    · exact .tail _ (.head _)
    · exact .tail _ (.tail _ (.head _))

theorem Callable.Asked.keysData {callable : Callable} {owner : Option Class}
    (h : callable.Asked owner request) : request.KeysData := by
  cases h with
  | bridge h => exact h.keysData
  | proxy hparameters hresult h => exact h.keysData
  | finalizer howner h =>
    obtain ⟨hop, location⟩ := h
    have hall : ∀ operation ∈ ["fin", "frelease"], operation ≠ "fdata" := by decide
    exact Request.keysData_of_operation rfl (hall _ hop)

theorem Item.Asked.keysData {item : Item} (h : item.Asked request) : request.KeysData := by
  cases item with
  | function callable => exact Callable.Asked.keysData h
  | cls c =>
    cases h with
    | member hmember h => exact h.keysData
    | data location => exact fun _ => ⟨c.name, location, rfl⟩
  | enumeration e => cases h

/-- The placeholder class that the data of a derived type names. -/
def Sources.dataPlaceholder? (sources : Sources) (className : String) : Option String :=
  (dataRequest className {}).placeholder? sources

/-! ## Notes about data -/

namespace LookupState

/-- Where the data of a derived type was looked up, the placeholder that it names was noted. -/
def NotesData (sources : Sources) (state : LookupState) : Prop :=
  ∀ className, state.kept? (dataRequest className {}) ≠ none →
    ∀ placeholder, sources.dataPlaceholder? className = some placeholder →
      placeholder ∈ state.opaqueTypes

end LookupState

namespace Lookup

theorem respond_ne_none {kept : Option Answer} (h : kept ≠ none) :
    (respond sources request kept).2 ≠ none := by
  obtain ⟨answer, rfl⟩ := Option.ne_none_iff_exists'.1 h
  unfold respond
  cases request.attached? with
  | some typemap => exact h
  | none =>
    cases answer with
    | found typemap => exact h
    | placeholder typemap => cases request.need <;> exact h

/-- What was kept before a lookup is kept behind it. -/
theorem find_keeps_kept (sources : Sources) (request other : Request) :
    Ensures (·.kept? other ≠ none) (find sources request) fun _ => True := by
  intro state hkept
  obtain ⟨next, hrun, hnext⟩ := find_respond sources request state
  rw [hrun]
  refine ⟨trivial, ?_⟩
  dsimp only
  rw [hnext other]
  split
  · next hkey =>
    have hsame : state.kept? request = state.kept? other := by
      rw [LookupState.kept?, LookupState.kept?, hkey]
    exact respond_ne_none (hsame ▸ hkept)
  · exact hkept

/-- An answer that is needed is kept. -/
theorem kept?_find (ha : request.attached? = none) (hneed : request.need = .required)
    (state : LookupState) : ((find sources request).run state).2.kept? request ≠ none := by
  obtain ⟨next, hrun, hnext⟩ := find_respond sources request state
  rw [hrun]
  dsimp only
  rw [hnext request, if_pos rfl]
  cases hkept : state.kept? request with
  | some answer => exact respond_ne_none nofun
  | none =>
    unfold respond
    rw [ha, hneed]
    cases stored sources request <;> exact nofun

end Lookup

namespace Generate

variable {setup : Setup} {state : GeneratorState}

/-- Looking data up notes the placeholder that the data names. -/
theorem keeps_notesData (setup : Setup) :
    Keeps setup Request.KeysData (LookupState.NotesData setup.sources) where
  report _ _ _ h := h
  find request hrequest state hnotes := by
    refine ⟨trivial, fun className hkept placeholder hplaceholder => ?_⟩
    obtain ⟨next, hrun, hnext⟩ := Lookup.find_respond setup.sources request state
    have hprefix := (Lookup.find_prefix setup.sources request state.opaqueTypes state
      List.prefix_rfl).2
    by_cases hkey : (dataRequest className {}).key = request.key
    · obtain ⟨name, location, rfl⟩ := hrequest (congrArg Prod.fst hkey).symm
      obtain rfl : className = name := by
        have hsignature := congrArg Prod.snd hkey
        simpa [Request.key, dataRequest, CxxType.named, CxxType.signature, CxxType.Base.spelling]
          using hsignature
      by_cases hnew : state.kept? (dataRequest className location) = none
      · rw [Lookup.find_opaqueTypes rfl, if_pos hnew, LookupState.mem_opaqueTypes_noting]
        exact .inr hplaceholder
      · exact hprefix.subset (hnotes className hnew placeholder hplaceholder)
    · rw [hrun] at hkept hprefix ⊢
      dsimp only at hkept hprefix ⊢
      rw [hnext, if_neg hkey] at hkept
      exact hprefix.subset (hnotes className hkept placeholder hplaceholder)

/-- The lookup of data in a run that adds shells. -/
theorem dataLines_eq (setup : Setup) (name : String) (state : GeneratorState) :
    ∃ data, (dataLines setup name {}).run.run state = (.ok data,
      { state with
        lookups := ((Lookup.find setup.sources (dataRequest name {})).run state.lookups).2 }) :=
  ⟨_, rfl⟩

/-- The data of each shell was looked up. -/
theorem shells_kept {names : List String} {next : GeneratorState}
    (h : (shells setup names).run.run state = (.ok (), next)) :
    ∀ name ∈ names, next.lookups.kept? (dataRequest name {}) ≠ none := by
  induction names generalizing state with
  | nil => nofun
  | cons first names ih =>
    obtain ⟨data, hdata⟩ := dataLines_eq setup first state
    let looked : LookupState :=
      ((Lookup.find setup.sources (dataRequest first {})).run state.lookups).2
    let added : GeneratorState :=
      { state with
        lookups := looked
        parts := { state.parts with types := state.parts.types ++ [.shell first data] } }
    have hrest : (shells setup names).run.run added = (.ok (), next) := by
      rw [shells, run_bind_of_ok hdata] at h
      exact h
    intro name hname
    rcases List.mem_cons.1 hname with rfl | hname
    · have hkept : added.lookups.kept? (dataRequest name {}) ≠ none := Lookup.kept?_find rfl rfl _
      have hrequest : Keeps setup (fun _ => True) (·.kept? (dataRequest name {}) ≠ none) :=
        ⟨fun request _ => Lookup.find_keeps_kept setup.sources request _, fun _ _ _ hs => hs⟩
      have hkeeps : EnsuresOk
          (fun state : GeneratorState => state.lookups.kept? (dataRequest name {}) ≠ none)
          (shells setup names) fun _ => True :=
        shells_keeps fun _ _ => hrequest.mono fun _ _ => trivial
      have hlast := (hkeeps added hkept).2
      rwa [hrest] at hlast
    · exact ih hrest name hname

/-- If the data of all shells names no placeholders but theirs, no other ones are noted. -/
theorem shells_opaqueTypes_subset {names shells : List String} {next : GeneratorState}
    (h : (Generate.shells setup names).run.run state = (.ok (), next))
    (hstate : state.lookups.opaqueTypes ⊆ shells)
    (hclosed : ∀ name ∈ names, ∀ placeholder,
      setup.sources.dataPlaceholder? name = some placeholder → placeholder ∈ shells) :
    next.lookups.opaqueTypes ⊆ shells := by
  have hrequest : ∀ name ∈ names,
      Keeps setup (· = dataRequest name {}) (·.opaqueTypes ⊆ shells) := by
    refine fun name hname => ⟨?_, fun _ _ _ hs => hs⟩
    rintro _ rfl state hs
    refine ⟨trivial, ?_⟩
    dsimp only
    rw [Lookup.find_opaqueTypes rfl]
    split
    · intro other hother
      rcases LookupState.mem_opaqueTypes_noting.1 hother with hold | hnew
      · exact hs hold
      · exact hclosed name hname other hnew
    · exact hs
  have hkeeps : EnsuresOk (fun state => state.lookups.opaqueTypes ⊆ shells)
      (Generate.shells setup names) fun _ => True := shells_keeps hrequest
  have hlast := (hkeeps state hstate).2
  rwa [h] at hlast

/-- What was noted before shells are added stays noted, in the same order. -/
theorem shells_prefix {names : List String} {next : GeneratorState}
    (h : (shells setup names).run.run state = (.ok (), next)) :
    state.lookups.opaqueTypes <+: next.lookups.opaqueTypes := by
  have hkeeps : EnsuresOk
      (fun later => state.lookups.opaqueTypes <+: later.lookups.opaqueTypes)
      (shells setup names) fun _ => True :=
    shells_keeps fun _ _ =>
      ⟨fun request _ => Lookup.find_prefix setup.sources request _, fun _ _ _ hs => hs⟩
  have hlast := (hkeeps state List.prefix_rfl).2
  rwa [h] at hlast

/-- In the end all placeholders are noted that data of derived types names. -/
theorem finalState_notesData (h : ∀ f ∈ setup.sources.decls.functions, f.kind = .freeFunction) :
    (finalState setup).lookups.NotesData setup.sources := by
  obtain ⟨session, hall, hshells, -, -, -⟩ := generate_runs h
  have hitems : EnsuresOk (fun state => state.lookups.NotesData setup.sources) (all setup)
      fun _ => True :=
    all_keeps fun item _ => (keeps_notesData setup).mono fun _ hr => Item.Asked.keysData hr
  have hkeeps : EnsuresOk (fun state => state.lookups.NotesData setup.sources)
      (Generate.shells setup session.lookups.opaqueTypes) fun _ => True := by
    refine shells_keeps fun name _ => (keeps_notesData setup).mono ?_
    rintro _ rfl
    exact fun _ => ⟨name, {}, rfl⟩
  have hsession := (hitems {} fun _ hkept => absurd rfl hkept).2
  rw [hall] at hsession
  have hlast := (hkeeps session hsession).2
  rwa [hshells] at hlast

/-- **Which placeholder classes are declared.** The placeholders that are named before the shells
are added have one shell each, and there are no other shells. So all placeholders that are named
have one, those named in the data of shells too, if and only if the data of each shell names none
but those. -/
theorem opaqueTypes_declared_iff {module : GeneratedModule} (h : generate setup = .ok module) :
    module.fortranSource =
      (finalState setup).parts.fortranSource setup.config setup.moduleName ∧
    (∀ type text location state placeholder,
      setup.sources.placeholderIn? type text = some placeholder →
      ((Lookup.substituteClassName? setup.sources type text location).run state).1 =
        some (Text.substitute text [(classToken, placeholder)]) ∧
      placeholder ∈
        ((Lookup.substituteClassName? setup.sources type text location).run state).2.opaqueTypes) ∧
    (shellNames setup = setup.session.state.lookups.opaqueTypes ∧ (shellNames setup).Nodup ∧
      shellNames setup <+: (finalState setup).lookups.opaqueTypes) ∧
    ((∀ placeholder ∈ (finalState setup).lookups.opaqueTypes,
        (shellNames setup).count placeholder = 1) ↔
      ∀ name ∈ shellNames setup, ∀ placeholder,
        setup.sources.dataPlaceholder? name = some placeholder →
          placeholder ∈ shellNames setup) := by
  have hfree := freeFunction_of_generate h
  obtain ⟨state, hall, hshells, hmodule, hstate, hfinal⟩ := generate_runs hfree
  obtain rfl := Except.ok.inj (h.symm.trans hmodule)
  obtain rfl : setup.session.state = state :=
    (Prod.mk.inj ((all_session hfree).symm.trans hall)).2
  have hnames : shellNames setup = setup.session.state.lookups.opaqueTypes :=
    hfinal.holds.shellNames
  have hnodup : (shellNames setup).Nodup := hnames ▸ hstate.holds.nodup_opaqueTypes
  have hprefix : shellNames setup <+: (finalState setup).lookups.opaqueTypes :=
    hnames ▸ shells_prefix hshells
  have hnotes := finalState_notesData hfree
  refine ⟨rfl, fun type text location state placeholder hplaceholder => ?_,
    ⟨hnames, hnodup, hprefix⟩, fun hdeclared name hname placeholder hplaceholder => ?_,
    fun hclosed placeholder hmem => ?_⟩
  · obtain ⟨hnoted, hvalue⟩ :=
      Lookup.substituteClassName?_noting setup.sources type text location state
    refine ⟨hvalue placeholder hplaceholder, ?_⟩
    rw [hnoted, LookupState.mem_opaqueTypes_noting]
    exact .inr hplaceholder
  · have hkept := shells_kept hshells name (hnames ▸ hname)
    have hcount := hdeclared placeholder (hnotes name hkept placeholder hplaceholder)
    exact List.count_pos_iff.1 (hcount ▸ Nat.one_pos)
  · have hsubset := shells_opaqueTypes_subset hshells (hnames ▸ List.Subset.refl _)
      fun name hname => hclosed name (hnames ▸ hname)
    exact List.count_eq_one_of_mem hnodup (hsubset hmem)

/-! ## A shell that is missing -/

/-- The built-in table with other data for the shell of the class `Gadget`: a pointer to its
kind. -/
def linkedTable : TypemapTable :=
  TypemapTable.fortran.code "fdata" (.named "SWIGTYPE_Gadget") "type($fclassname), pointer :: next"

/-- A library with a function that takes an object of the class `Gadget`, which is not declared. -/
def linkedSetup : Setup where
  sources := ⟨gadgets {}, linkedTable.lookup⟩
  config := {}

theorem linkedSetup_eq : linkedSetup = ⟨⟨gadgets {}, fun operation signature =>
    if operation = "fdata" ∧ signature = "SWIGTYPE_Gadget" then
      some { code := "type($fclassname), pointer :: next" }
    else (TypemapTable.blockOf? signature).bind (·.typemap? operation)⟩, {}⟩ := by
  have hstore : linkedTable.lookup = fun operation signature =>
      if operation = "fdata" ∧ signature = "SWIGTYPE_Gadget" then
        some { code := "type($fclassname), pointer :: next" }
      else (TypemapTable.blockOf? signature).bind (·.typemap? operation) := by
    funext operation signature
    have hsignature : (CxxType.named "SWIGTYPE_Gadget").signature = "SWIGTYPE_Gadget" := by decide
    rw [linkedTable, TypemapTable.lookup_code, TypemapTable.lookup_fortran, hsignature]
  rw [linkedSetup, hstore]

/-- **A placeholder class can be left without a declaration**, if it is named in the data of a
shell. -/
theorem not_opaqueTypes_declared : ∃ module, generate linkedSetup = .ok module ∧
    shellNames linkedSetup = ["SWIGTYPE_Gadget"] ∧
    (finalState linkedSetup).lookups.opaqueTypes =
      ["SWIGTYPE_Gadget", "SWIGTYPE_SWIGTYPE_Gadget"] ∧
    ¬∀ placeholder ∈ (finalState linkedSetup).lookups.opaqueTypes,
      (shellNames linkedSetup).count placeholder = 1 := by
  have hfree : ∀ f ∈ linkedSetup.sources.decls.functions, f.kind = .freeFunction :=
    freeFunction_of_gadgets {}
  obtain ⟨shells, hgenerate, -, -, -⟩ := generate_describes hfree
  have hshells : shellNames linkedSetup = ["SWIGTYPE_Gadget"] := by
    rw [linkedSetup_eq]
    decide +kernel
  have hnames : (finalState linkedSetup).lookups.opaqueTypes =
      ["SWIGTYPE_Gadget", "SWIGTYPE_SWIGTYPE_Gadget"] := by
    rw [linkedSetup_eq]
    decide +kernel
  refine ⟨_, hgenerate, hshells, hnames, ?_⟩
  rw [hshells, hnames]
  decide

/-- With the built-in data of shells every placeholder class is declared. -/
theorem opaqueTypes_declared_of_gadgets : ∃ module,
    generate ⟨.builtin (gadgets {}), {}⟩ = .ok module ∧
    shellNames ⟨.builtin (gadgets {}), {}⟩ = ["SWIGTYPE_Gadget"] ∧
    ∀ placeholder ∈ (finalState ⟨.builtin (gadgets {}), {}⟩).lookups.opaqueTypes,
      (shellNames ⟨.builtin (gadgets {}), {}⟩).count placeholder = 1 := by
  obtain ⟨shells, hgenerate, -, -, -⟩ := generate_describes (freeFunction_of_gadgets {})
  obtain ⟨-, -, -, hdeclared⟩ := opaqueTypes_declared_iff hgenerate
  have hshells : shellNames ⟨.builtin (gadgets {}), {}⟩ = ["SWIGTYPE_Gadget"] := by
    rw [Sources.builtin_eq]
    decide +kernel
  have hdata : (Sources.builtin (gadgets {})).dataPlaceholder? "SWIGTYPE_Gadget" = none := by
    rw [Sources.builtin_eq]
    decide +kernel
  refine ⟨_, hgenerate, hshells, hdeclared.2 fun name hname placeholder hplaceholder => ?_⟩
  rw [hshells] at hname
  obtain rfl := List.mem_singleton.1 hname
  cases hdata.symm.trans hplaceholder

end Generate

end FortranBindings
