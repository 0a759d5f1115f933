import FortranBindings.Proofs.Generator.Requests

/-!
# What is made does not depend on earlier lookups

A computation is settled if it gives one value from all sound states (`Lookup.Settled`), as every
computation is that asks plain requests only (`Lookup.Asks.settled`). Bridges, proxies, finalizers
and classes ask plain requests as long as the types involved can be read from spellings
(`Callable.Asked.isPlain`, `Class.Asked.isPlain`). So making a bridge (`Bridge.make_settled`) and
making a proxy (`Proxy.make_settled`) are settled then.
-/

namespace FortranBindings

variable {sources : Sources} {α : Type} {request : Request}

theorem Request.isPlain_mk {operation : String} {suffix : Option String} {type : CxxType}
    {attached : Attachments} {need : Need} {location : Location} (hop : ':' ∉ operation.toList)
    (h : type.IsSpelled) : IsPlain { operation, suffix, type, attached, need, location } :=
  ⟨hop, h⟩

/-! ## Settled computations -/

/-- The computation gives the same value from all states whose answers are sound, and keeps them
sound. -/
def Lookup.Settled (sources : Sources) (m : Lookup α) : Prop :=
  ∃ a, Ensures (LookupState.Sound sources) m (· = a)

/-- Asking plain requests is settled. -/
theorem Lookup.Asks.settled {m : Lookup α} (hm : Asks sources Request.IsPlain m) :
    m.Settled sources := by
  induction hm with
  | pure a => exact ⟨a, .pure rfl⟩
  | ask hrequest _ ih =>
    obtain ⟨a, ha⟩ := ih (answer? sources _)
    refine ⟨a, (find_ensures hrequest).bind ?_⟩
    rintro _ rfl
    exact ha

/-! ## Types that can be read -/

/-- Is the name of the class read as this name? -/
def Class.HasPlainName (cls : Class) : Prop :=
  CxxType.ofSpelling cls.name = .ok (.named cls.name)

/-- Can the types of the parameters and of the result be read from spellings? -/
structure Callable.IsSpelled (callable : Callable) : Prop where
  parameters : ∀ p ∈ callable.parameters, p.type.IsSpelled
  result : callable.result.IsSpelled

/-- Can the types that the bridge was made from be read from spellings? -/
structure Bridge.IsSpelled (bridge : Bridge) : Prop where
  parameters : ∀ p ∈ bridge.parameters, p.type.IsSpelled
  result : bridge.result.IsSpelled

theorem CxxType.isSpelled_void : void.IsSpelled :=
  isSpelled_iff.2 trivial

theorem Bridge.IsSpelled.of_mem_lookupTypes {bridge : Bridge} (h : bridge.IsSpelled) :
    ∀ type ∈ bridge.lookupTypes, type.IsSpelled := by
  intro type htype
  rcases List.mem_cons.1 htype with rfl | htype
  · exact CxxType.isSpelled_void
  · rcases List.mem_cons.1 htype with rfl | htype
    · exact h.result
    · obtain ⟨parameter, hparameter, rfl⟩ := List.mem_map.1 htype
      exact h.parameters parameter hparameter

theorem Class.HasPlainName.isSpelled_handle {cls : Class} (h : cls.HasPlainName) (isConst : Bool) :
    (cls.handle isConst).IsSpelled := by
  have hname : (CxxType.named cls.name).WellSpelled := CxxType.wellSpelled_of_ofSpelling h
  exact CxxType.isSpelled_iff.2 ⟨nofun, hname⟩

namespace Callable.IsSpelled

variable {callable : Callable} {owner : Option Class}

theorem resultIn (h : callable.IsSpelled) (ho : ∀ cls ∈ owner, cls.HasPlainName) :
    (callable.resultIn owner).IsSpelled := by
  unfold Callable.resultIn
  split
  · split
    · exact (ho _ rfl).isSpelled_handle false
    · exact h.result
  · exact h.result

theorem parametersIn (h : callable.IsSpelled) (ho : ∀ cls ∈ owner, cls.HasPlainName) :
    ∀ p ∈ callable.parametersIn owner, p.type.IsSpelled := by
  intro p hp
  unfold Callable.parametersIn at hp
  split at hp
  · split at hp
    · rcases List.mem_cons.1 hp with rfl | hp
      · exact (ho _ rfl).isSpelled_handle _
      · exact h.parameters p hp
    · exact h.parameters p hp
  · exact h.parameters p hp

/-- All types that making the bridge looks templates up for can be read from spellings. -/
theorem of_mem_askedTypes (h : callable.IsSpelled) (ho : ∀ cls ∈ owner, cls.HasPlainName) :
    ∀ type ∈ Bridge.askedTypes callable owner, type.IsSpelled :=
  List.forall_mem_cons.2 ⟨h.resultIn ho, List.forall_mem_map.2 (h.parametersIn ho)⟩

end Callable.IsSpelled

/-! ## Plain requests -/

theorem Bridge.Asked.isPlain {callable : Callable} {owner : Option Class}
    (h : Bridge.Asked callable owner request) (hcallable : callable.IsSpelled)
    (ho : ∀ cls ∈ owner, cls.HasPlainName) : request.IsPlain :=
  ⟨h.colon_notMem, hcallable.of_mem_askedTypes ho _ h.type_mem⟩

theorem Proxy.Asked.isPlain {bridge : Bridge} {mode : ProxyMode}
    (h : Proxy.Asked bridge mode request) (hbridge : bridge.IsSpelled) : request.IsPlain := by
  cases h with
  | parameter hparameter hop =>
    have hall : ∀ operation ∈ ["ftype", "fin"], ':' ∉ operation.toList := by decide
    exact Request.isPlain_mk (hall _ hop) (hbridge.parameters _ hparameter)
  | option hparameter hop =>
    have hall : ∀ operation ∈ ["fpre", "fpost"], ':' ∉ operation.toList := by decide
    exact Request.isPlain_mk (hall _ hop) (hbridge.parameters _ hparameter)
  | result => exact Request.isPlain_mk (by decide) hbridge.result
  | body =>
    obtain ⟨hop, hmem⟩ := bodyOperation_mem bridge mode
    exact Request.isPlain_mk hop (hbridge.of_mem_lookupTypes _ hmem)

theorem Proxy.AskedByFinalizer.isPlain {cls : Class} (h : AskedByFinalizer cls request)
    (hname : cls.HasPlainName) : request.IsPlain := by
  cases h with
  | intro hop =>
    have hall : ∀ operation ∈ ["fin", "frelease"], ':' ∉ operation.toList := by decide
    exact Request.isPlain_mk (hall _ hop) (hname.isSpelled_handle false)

theorem Callable.Asked.isPlain {callable : Callable} {owner : Option Class}
    (h : callable.Asked owner request) (hcallable : callable.IsSpelled)
    (ho : ∀ cls ∈ owner, cls.HasPlainName) : request.IsPlain := by
  cases h with
  | bridge h => exact h.isPlain hcallable ho
  | proxy hparameters hresult h =>
    refine h.isPlain ⟨?_, ?_⟩
    · rw [hparameters]
      exact hcallable.parametersIn ho
    · rw [hresult]
      exact hcallable.resultIn ho
  | finalizer howner h => exact h.isPlain (ho _ howner)

theorem Class.HasPlainName.isPlain_dataRequest {cls : Class} (h : cls.HasPlainName)
    (location : Location) : (dataRequest cls.name location).IsPlain :=
  Request.isPlain_mk (by decide) ⟨_, h⟩

theorem Class.Asked.isPlain {cls : Class} (h : cls.Asked request) (hname : cls.HasPlainName)
    (hmembers : ∀ callable ∈ cls.members, callable.IsSpelled) : request.IsPlain := by
  cases h with
  | member hmember h =>
    refine h.isPlain (hmembers _ hmember) ?_
    rintro _ ⟨⟩
    exact hname
  | data location => exact hname.isPlain_dataRequest location

/-- Making the bridge of a declaration is settled. -/
theorem Bridge.make_settled {callable : Callable} {owner : Option Class}
    (h : callable.IsSpelled) (ho : ∀ cls ∈ owner, cls.HasPlainName) (name : String) :
    (make sources callable owner name).run.Settled sources :=
  ((make_asks callable owner name).mono fun _ hr => hr.isPlain h ho).settled

/-- Making a proxy is settled. -/
theorem Proxy.make_settled {bridge : Bridge} (h : bridge.IsSpelled) (config : Config)
    (callable : Callable) (mode : ProxyMode) (owner : Option (Class × String)) :
    (make sources config callable mode bridge owner).Settled sources :=
  ((make_asks config callable mode bridge owner).mono fun _ hr => hr.isPlain h).settled

end FortranBindings
