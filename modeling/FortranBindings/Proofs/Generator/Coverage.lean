import FortranBindings.Proofs.Generator.Description
import FortranBindings.Proofs.Generator.Keeping
import FortranBindings.Proofs.Template.Coverage

/-!
# The built-in table is complete

If the built-in table is made for the parameters and results of a library
(`Declarations.IsCovered`), all templates that its declarations need are found
(`Declarations.IsCovered.isServed`). What can still be missed is the data of a shell, the derived
type that stands for a class which is not known: its name may have been declared as something else
(`Generate.missingTemplate_of_isCovered`, `Generate.missingTemplate_of_gadgets`).
-/

namespace FortranBindings

/-- The built-in table is made for the parameters and the result, and what a constructor returns is
not declared. -/
structure Callable.IsCovered (decls : Declarations) (callable : Callable) : Prop where
  parameters : ∀ parameter ∈ callable.parameters, decls.Supports parameter.type
  result : decls.SupportsResult callable.result
  constructor : callable.kind = .constructor → callable.result.isVoid = true

/-- The built-in table is made for all declarations, and no typedef is named like a class. -/
structure Declarations.IsCovered (decls : Declarations) : Prop where
  classes : ∀ cls ∈ decls.classes, decls.typedefs.find? cls.name = none
  functions : ∀ callable ∈ decls.functions, callable.IsCovered decls
  members : ∀ cls ∈ decls.classes, ∀ callable ∈ cls.members, callable.IsCovered decls

/-- A template that is needed is in the built-in table. -/
def Request.IsServed (decls : Declarations) (request : Request) : Prop :=
  request.need = .required →
    ((Sources.builtin decls).search? request.operations request.type).isSome

/-! ## What declarations ask for -/

namespace Callable.IsCovered

variable {decls : Declarations} {callable : Callable} {owner : Option Class} {request : Request}

/-- The implicit object is a parameter that the table is made for as well. -/
theorem supports_of_mem (h : callable.IsCovered decls) (howner : ∀ cls ∈ owner, decls.HasClass cls)
    {parameter : Parameter} (hp : parameter ∈ callable.parametersIn owner) :
    decls.Supports parameter.type := by
  unfold parametersIn at hp
  split at hp
  · next cls =>
    split at hp
    · rcases List.mem_cons.1 hp with rfl | hp
      · exact Declarations.supports_handle (howner cls rfl) _
      · exact h.parameters parameter hp
    · exact h.parameters parameter hp
  · exact h.parameters parameter hp

/-- The object that a constructor returns is a result that the table is made for as well. -/
theorem supportsResult (h : callable.IsCovered decls)
    (howner : ∀ cls ∈ owner, decls.HasClass cls) :
    decls.SupportsResult (callable.resultIn owner) := by
  unfold resultIn
  split
  · next cls _ =>
    split
    · exact .inl (Declarations.supports_handle (howner cls rfl) false)
    · exact h.result
  · exact h.result

theorem isServed_bridge (h : callable.IsCovered decls) (howner : ∀ cls ∈ owner, decls.HasClass cls)
    (hrequest : Bridge.Asked callable owner request) : request.IsServed decls := by
  intro hneed
  cases hrequest with
  | parameter hparameter hop attached location =>
    refine Sources.isSome_search?_of_supports (h.supports_of_mem howner hparameter)
      List.mem_cons_self ?_
    exact (by decide : ["in", "ctype", "imtype"] ⊆ TypemapTable.commonOperations) hop
  | option => cases hneed
  | @result operation suffix hop location =>
    have hsupports := h.supportsResult howner
    have hctype : "ctype" ∈ TypemapTable.resultOperations := by decide
    have himtype : "imtype:out" ∈ TypemapTable.resultOperations := by decide
    have hout : "out" ∈ TypemapTable.resultOperations := by decide
    simp only [List.mem_cons, List.not_mem_nil, or_false, Prod.mk.injEq] at hop
    rcases hop with ⟨rfl, rfl⟩ | ⟨rfl, rfl⟩ | ⟨rfl, rfl⟩
    · exact Sources.isSome_search?_of_supportsResult hsupports (.tail _ (.head _)) hctype
    · exact Sources.isSome_search?_of_supportsResult hsupports (.head _) himtype
    · exact Sources.isSome_search?_of_supportsResult hsupports (.head _) hout

/-- What a proxy does is in the built-in table for the object or result that it does it with. -/
theorem isSome_search?_body (h : callable.IsCovered decls)
    (howner : ∀ cls ∈ owner, decls.HasClass cls)
    (hmember : callable.kind.isMember = true → owner.isSome = true) {bridge : Bridge}
    (hparameters : bridge.parameters = callable.parametersIn owner)
    (hresult : bridge.result = callable.resultIn owner) :
    ((Sources.builtin decls).search? [(Proxy.bodyOperation bridge (.ofKind callable.kind)).1]
      (Proxy.bodyOperation bridge (.ofKind callable.kind)).2).isSome := by
  have hfunction : ((Sources.builtin decls).search? ["fout"] bridge.result).isSome := by
    rw [hresult]
    exact Sources.isSome_search?_of_supportsResult (h.supportsResult howner) List.mem_cons_self
      (by decide)
  cases hkind : callable.kind with
  | freeFunction | method | accessor => exact hfunction
  | constructor =>
    obtain ⟨cls, rfl⟩ := Option.isSome_iff_exists.1 (hmember (hkind ▸ rfl))
    have hhandle : bridge.result = cls.handle false := by
      rw [hresult]
      simp only [resultIn, hkind]
      exact if_pos (h.constructor hkind)
    change ((Sources.builtin decls).search? ["fcreate"] bridge.result).isSome
    rw [hhandle]
    exact Sources.isSome_search?_handle (howner cls rfl) (by decide)
  | destructor =>
    obtain ⟨cls, rfl⟩ := Option.isSome_iff_exists.1 (hmember (hkind ▸ rfl))
    have hself : (bridge.parameters.head?.map Parameter.type).getD .void = cls.handle false := by
      rw [hparameters]
      simp only [parametersIn, hkind]
      rfl
    change ((Sources.builtin decls).search? ["frelease"]
      ((bridge.parameters.head?.map Parameter.type).getD .void)).isSome
    rw [hself]
    exact Sources.isSome_search?_handle (howner cls rfl) (by decide)

theorem isServed_proxy (h : callable.IsCovered decls) (howner : ∀ cls ∈ owner, decls.HasClass cls)
    (hmember : callable.kind.isMember = true → owner.isSome = true) {bridge : Bridge}
    (hparameters : bridge.parameters = callable.parametersIn owner)
    (hresult : bridge.result = callable.resultIn owner)
    (hrequest : Proxy.Asked bridge (.ofKind callable.kind) request) : request.IsServed decls := by
  intro hneed
  cases hrequest with
  | parameter hparameter hop attached location =>
    rw [hparameters] at hparameter
    refine Sources.isSome_search?_of_supports (h.supports_of_mem howner hparameter)
      List.mem_cons_self ?_
    exact (by decide : ["ftype", "fin"] ⊆ TypemapTable.commonOperations) hop
  | option => cases hneed
  | result hmode location =>
    have hftype : "ftype:out" ∈ TypemapTable.resultOperations := by decide
    rw [hresult]
    exact Sources.isSome_search?_of_supportsResult (h.supportsResult howner) (.head _) hftype
  | body location => exact h.isSome_search?_body howner hmember hparameters hresult

/-- What is asked for a declaration is found. -/
theorem isServed (h : callable.IsCovered decls) (howner : ∀ cls ∈ owner, decls.HasClass cls)
    (hmember : callable.kind.isMember = true → owner.isSome = true)
    (hrequest : callable.Asked owner request) : request.IsServed decls := by
  cases hrequest with
  | bridge hbridge => exact h.isServed_bridge howner hbridge
  | proxy hparameters hresult hproxy =>
    exact h.isServed_proxy howner hmember hparameters hresult hproxy
  | finalizer hcls hfinalizer =>
    obtain ⟨hop, location⟩ := hfinalizer
    have hclass := howner _ hcls
    intro _
    simp only [List.mem_cons, List.not_mem_nil, or_false] at hop
    rcases hop with rfl | rfl
    · have hfin : "fin" ∈ TypemapTable.commonOperations := by decide
      exact Sources.isSome_search?_of_supports (Declarations.supports_handle hclass false)
        (.head _) hfin
    · have hfrelease : "frelease" ∈ ["fcreate", "frelease"] := by decide
      exact Sources.isSome_search?_handle hclass hfrelease

end Callable.IsCovered

/-- **What the declarations ask for is found.** -/
theorem Declarations.IsCovered.isServed {decls : Declarations} (h : decls.IsCovered)
    (hfree : ∀ f ∈ decls.functions, f.kind = .freeFunction) {item : Item}
    (hitem : item ∈ decls.items) {request : Request} (hrequest : item.Asked request) :
    request.IsServed decls := by
  cases item with
  | function callable =>
    have hmem : callable ∈ decls.functions := List.mem_filterMap.2 ⟨_, hitem, rfl⟩
    refine (h.functions callable hmem).isServed (fun c hc => ?_) (fun hmember => ?_) hrequest
    · cases hc
    · rw [hfree callable hmem] at hmember
      cases hmember
  | cls cls =>
    have hmem : cls ∈ decls.classes := List.mem_filterMap.2 ⟨_, hitem, rfl⟩
    have hclass : decls.HasClass cls := ⟨hmem, h.classes cls hmem⟩
    cases hrequest with
    | member hmember hasked =>
      refine (h.members cls hmem _ hmember).isServed (fun c hc => ?_) (fun _ => rfl) hasked
      obtain rfl := Option.some.inj hc
      exact hclass
    | data location =>
      exact fun _ => Sources.isSome_search?_data (Declarations.standsForClass_of_hasClass hclass)
  | enumeration => cases hrequest

/-! ## What is missed -/

namespace LookupState

variable {allowed allowed' : Diagnostic → Prop} {state : LookupState}

/-- All misses that were reported are of a sort. -/
def MissesOnly (allowed : Diagnostic → Prop) (state : LookupState) : Prop :=
  ∀ d ∈ state.diagnostics, d.kind = .missingTemplate → allowed d

theorem MissesOnly.mono (h : state.MissesOnly allowed) (hallowed : ∀ d, allowed d → allowed' d) :
    state.MissesOnly allowed' :=
  fun d hd hkind => hallowed d (h d hd hkind)

theorem MissesOnly.report (h : state.MissesOnly allowed) {diagnostic : Diagnostic}
    (hallowed : diagnostic.kind = .missingTemplate → allowed diagnostic) :
    (state.report diagnostic).MissesOnly allowed := by
  intro d hd hkind
  rcases List.mem_append.1 hd with hd | hd
  · exact h d hd hkind
  · obtain rfl := List.mem_singleton.1 hd
    exact hallowed hkind

theorem preserves_missesOnly (allowed : Diagnostic → Prop) :
    Lookup.Preserves (MissesOnly allowed) where
  keep _ _ _ _ h := h
  noteOpaque state type h := by
    unfold noteOpaque
    split <;> exact h
  report _ _ _ h := h.report nofun

end LookupState

namespace Generate

variable {decls : Declarations} {config : Config}

/-- Where requests miss nothing but what is allowed, so does what asks them. -/
theorem keeps_missesOnly {allowed : Diagnostic → Prop} {sort : Request → Prop}
    (h : ∀ request, sort request → request.IsServed decls ∨ allowed request.miss) :
    Keeps ⟨.builtin decls, config⟩ sort (LookupState.MissesOnly allowed) where
  find request hrequest :=
    Lookup.find_keeps (LookupState.preserves_missesOnly allowed) fun hneed hnone state hs => by
      refine hs.report fun _ => (h request hrequest).resolve_left fun hserved => ?_
      have hsome := hserved hneed
      rw [hnone] at hsome
      cases hsome
  report _ _ hkind hs := hs.report fun hmissing => absurd hmissing hkind

/-- The report about a shell that there is no data for. -/
theorem miss_dataRequest (name : String) : (dataRequest name {}).miss =
    ⟨.missingTemplate, {}, "no \"fdata\" typemap defined for \"" ++ name ++ "\""⟩ := by
  simp [Request.miss, dataRequest, Request.mainOperation, CxxType.named, CxxType.signature,
    CxxType.Base.spelling]

/-- The names of the shells in the generated module. -/
def shellNames (setup : Setup) : List String :=
  (finalState setup).parts.types.filterMap TypeBlock.shellName?

/-- **The built-in table is complete** but for shells. If it is made for all declarations of a
library, the only templates that are missed are those for the data of shells whose names do not
stand for classes; and there are none of these if no name of a placeholder is declared. -/
theorem missingTemplate_of_isCovered {module : GeneratedModule} (h : decls.IsCovered)
    (hgenerate : generate ⟨.builtin decls, config⟩ = .ok module) :
    module = writtenOut ⟨.builtin decls, config⟩ (finalState ⟨.builtin decls, config⟩) ∧
    (∀ d ∈ module.diagnostics, d.kind = .missingTemplate →
      ∃ name ∈ shellNames ⟨.builtin decls, config⟩, ¬decls.StandsForClass name ∧
        d = ⟨.missingTemplate, {}, "no \"fdata\" typemap defined for \"" ++ name ++ "\""⟩) ∧
    ((∀ type, decls.typedefs.find? (placeholderName type) = none ∧
        decls.getEnumeration? (placeholderName type) = none) →
      ∀ d ∈ module.diagnostics, d.kind ≠ .missingTemplate) := by
  have hfree := freeFunction_of_generate hgenerate
  obtain ⟨state, hall, hshells, hmodule, hstate, hfinal⟩ := generate_runs hfree
  obtain rfl := Except.ok.inj (hgenerate.symm.trans hmodule)
  have hnames : shellNames ⟨.builtin decls, config⟩ = state.lookups.opaqueTypes :=
    hfinal.holds.shellNames
  have hstateMisses : state.lookups.MissesOnly fun _ => False := by
    have hkeeps : EnsuresOk (fun state => state.lookups.MissesOnly fun _ => False)
        (all ⟨.builtin decls, config⟩) fun _ => True :=
      all_keeps fun item hitem => keeps_missesOnly fun request hrequest =>
        .inl (h.isServed hfree hitem hrequest)
    have hlast := (hkeeps {} nofun).2
    rwa [hall] at hlast
  -- A shell has its data if its name stands for a class.
  let MissedShell (d : Diagnostic) : Prop :=
    ∃ name ∈ shellNames ⟨.builtin decls, config⟩, ¬decls.StandsForClass name ∧
      d = (dataRequest name {}).miss
  have hmisses : (finalState ⟨.builtin decls, config⟩).lookups.MissesOnly MissedShell := by
    have hkeeps : EnsuresOk (fun state => state.lookups.MissesOnly MissedShell)
        (shells ⟨.builtin decls, config⟩ state.lookups.opaqueTypes) fun _ => True := by
      refine shells_keeps fun name hname => keeps_missesOnly ?_
      rintro _ rfl
      by_cases hclass : decls.StandsForClass name
      · exact .inl fun _ => Sources.isSome_search?_data hclass
      · exact .inr ⟨name, hnames ▸ hname, hclass, rfl⟩
    have hlast := (hkeeps state (hstateMisses.mono fun _ => False.elim)).2
    rwa [hshells] at hlast
  refine ⟨rfl, fun d hd hkind => ?_, fun hplaceholders d hd hkind => ?_⟩
  · obtain ⟨name, hname, hclass, rfl⟩ := hmisses d hd hkind
    exact ⟨name, hname, hclass, miss_dataRequest name⟩
  · obtain ⟨name, hname, hclass, -⟩ := hmisses d hd hkind
    obtain ⟨type, rfl⟩ := hstate.holds.opaqueTypes name (hnames ▸ hname)
    exact hclass (Declarations.standsForClass_of_undeclared (hplaceholders type).1
      (hplaceholders type).2)

/-- A library with a function that takes an object of a class which is not declared. -/
def gadgets (typedefs : Dict CxxType) : Declarations where
  name := "gadgets"
  typedefs := typedefs
  items := [.function {
    name := "poke"
    kind := .freeFunction
    parameters := [{ name := "gadget", type := .pointer (.named "Gadget") }] }]

theorem isCovered_gadgets {typedefs : Dict CxxType} (h : typedefs.find? "Gadget" = none) :
    (gadgets typedefs).IsCovered where
  classes := nofun
  functions := by
    have hgadget : (gadgets typedefs).Supports (.pointer (.named "Gadget")) := by
      refine ⟨_, .pointer false, Declarations.resolve_of_isResolved fun name hname => ?_, rfl,
        trivial⟩
      cases hname
      exact h
    have hvoid : (gadgets typedefs).ResolvesToVoid .void :=
      ⟨.void, Declarations.resolve_of_isResolved nofun, rfl⟩
    intro callable hc
    obtain rfl := List.mem_singleton.1 hc
    refine ⟨fun parameter hp => ?_, .inr hvoid, nofun⟩
    obtain rfl := List.mem_singleton.1 hp
    exact hgadget
  members := nofun

theorem freeFunction_of_gadgets (typedefs : Dict CxxType) :
    ∀ f ∈ (⟨.builtin (gadgets typedefs), {}⟩ : Setup).sources.decls.functions,
      f.kind = .freeFunction := by
  intro f hf
  obtain rfl := List.mem_singleton.1 hf
  rfl

/-- The name of the placeholder for the class `Gadget`, as the one of a number. -/
def gadgetTypedef : Dict CxxType := Dict.empty.insert "SWIGTYPE_Gadget" (.builtin .int)

theorem diagnostics_gadgets :
    (finalState ⟨.builtin (gadgets gadgetTypedef), {}⟩).lookups.diagnostics.map (·.kind) =
      [.unknownClassType, .missingTemplate] := by
  rw [Sources.builtin_eq]
  decide +kernel

/-- **A template can be missed** in a library that the built-in table is made for: the data of a
shell whose name is the one of a typedef. -/
theorem missingTemplate_of_gadgets : ∃ module,
    (∀ type, ∃ resolved, (gadgets gadgetTypedef).resolve type = .ok resolved) ∧
    (∀ cls ∈ (gadgets gadgetTypedef).classes, CxxType.ofSpelling cls.name = .ok (.named cls.name)) ∧
    (gadgets gadgetTypedef).IsCovered ∧
    generate ⟨.builtin (gadgets gadgetTypedef), {}⟩ = .ok module ∧
    ∃ d ∈ module.diagnostics, d.kind = .missingTemplate := by
  obtain ⟨shells, hgenerate, -, -, -⟩ := generate_describes (freeFunction_of_gadgets gadgetTypedef)
  refine ⟨_, fun type => ?_, nofun, isCovered_gadgets rfl, hgenerate, ?_⟩
  · refine Declarations.exists_resolve_eq_ok (fun name underlying hfind => ?_) type
    have hinsert := (Dict.find?_insert Dict.empty "SWIGTYPE_Gadget" name _).symm.trans hfind
    split at hinsert
    · cases hinsert
      exact nofun
    · cases hinsert
  · have hmem : DiagnosticKind.missingTemplate ∈
        (finalState ⟨.builtin (gadgets gadgetTypedef), {}⟩).lookups.diagnostics.map (·.kind) := by
      rw [diagnostics_gadgets]
      decide
    obtain ⟨d, hd, hkind⟩ := List.mem_map.1 hmem
    refine ⟨d, ?_, hkind⟩
    rwa [writtenOut_diagnostics]

/-- Without the typedef nothing is missed. -/
theorem missingTemplate_of_isCovered_gadgets : ∃ module,
    (gadgets {}).IsCovered ∧ generate ⟨.builtin (gadgets {}), {}⟩ = .ok module ∧
    ∀ d ∈ module.diagnostics, d.kind ≠ .missingTemplate := by
  obtain ⟨shells, hgenerate, -, -, -⟩ := generate_describes (freeFunction_of_gadgets {})
  have hcovered : (gadgets {}).IsCovered := isCovered_gadgets rfl
  obtain ⟨-, -, hnone⟩ := missingTemplate_of_isCovered hcovered hgenerate
  exact ⟨_, hcovered, hgenerate, hnone fun type => ⟨rfl, rfl⟩⟩

end Generate

end FortranBindings
