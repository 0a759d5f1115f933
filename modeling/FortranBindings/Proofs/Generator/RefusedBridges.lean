import FortranBindings.Proofs.Bridge.Results
import FortranBindings.Proofs.Generator.Additions
import FortranBindings.Proofs.Generator.Description

/-!
# When a bridge is refused

Bridges are asked for one after the other, each with or without a class. What a call comes to
depends on the earlier ones by the names that these claim (`BridgeCall.find?_after`): a name that
was claimed is refused, and otherwise a bridge is made unless it is that of a constructor without a
class and without an action of its own (`BridgeCall.outcome`). Such a constructor has claimed its
name before it fails, and other members without a class do not fail at all. As long as all members
have their class, a name is refused only if a bridge was made under it, and a refused call changes
no names; at which calls this is so otherwise is told by `BridgeCall.failsAsDocumented_iff`.
-/

namespace FortranBindings

/-- A bridge is asked for, with the class of the callable if that is at hand. -/
structure BridgeCall where
  callable : Callable
  owner : Option Class

namespace BridgeCall

variable {setup : Setup} {call : BridgeCall} {before calls : List BridgeCall}

/-! ## Calls -/

/-- The name of the wrapper. -/
def name (setup : Setup) (call : BridgeCall) : String :=
  Generate.wrapperName setup call.callable call.owner

/-- The bridge or the error, and the state afterwards. -/
def run (setup : Setup) (call : BridgeCall) (state : GeneratorState) :
    Except GenerateError Bridge × GeneratorState :=
  (Generate.bridge setup call.callable call.owner).run.run state

/-- The state after some calls. -/
def after (setup : Setup) (calls : List BridgeCall) : GeneratorState :=
  calls.foldl (fun state call => (call.run setup state).2) {}

/-- What the call gives after others. -/
def result (setup : Setup) (before : List BridgeCall) (call : BridgeCall) :
    Except GenerateError Bridge :=
  (call.run setup (after setup before)).1

theorem after_concat (setup : Setup) (before : List BridgeCall) (call : BridgeCall) :
    after setup (before ++ [call]) = (call.run setup (after setup before)).2 := by
  rw [after, List.foldl_concat]
  rfl

/-- The call is for a callable that is not overloaded and has a wrapper of this name. -/
def Claims (setup : Setup) (name : String) (call : BridgeCall) : Prop :=
  call.callable.isOverloaded = false ∧ call.name setup = name

instance (setup : Setup) (name : String) : DecidablePred (Claims setup name) :=
  fun _ => inferInstanceAs (Decidable (_ ∧ _))

/-- The first call that claims a name. -/
def firstClaim? (setup : Setup) (name : String) (calls : List BridgeCall) : Option BridgeCall :=
  calls.find? fun call => decide (call.Claims setup name)

/-- The name of a callable that is not overloaded was claimed before. -/
def IsTaken (setup : Setup) (before : List BridgeCall) (call : BridgeCall) : Prop :=
  call.callable.isOverloaded = false ∧ ∃ earlier ∈ before, earlier.Claims setup (call.name setup)

/-- A constructor without a class has no action of its own. -/
def LacksClass (call : BridgeCall) : Prop :=
  call.callable.kind = .constructor ∧ call.callable.action = none ∧ call.owner = none

/-- A member is asked for without its class. -/
def IsOutside (call : BridgeCall) : Prop :=
  call.callable.kind.isMember = true ∧ call.owner = none

theorem LacksClass.isOutside (h : call.LacksClass) : call.IsOutside := by
  refine ⟨?_, h.2.2⟩
  rw [h.1]
  rfl

/-! ## Making a bridge -/

/-- There is an action unless a constructor lacks its class. -/
theorem actionOf_eq (call : BridgeCall) (slots : List Bridge.Slot) (result : CxxType)
    (held : Held) :
    (call.LacksClass → Bridge.actionOf call.callable call.owner slots result held =
      .error (.memberOutsideClass call.callable.name)) ∧
    (¬call.LacksClass → ∃ action,
      Bridge.actionOf call.callable call.owner slots result held = .ok action) := by
  constructor
  · rintro ⟨hkind, haction, howner⟩
    rw [Bridge.actionOf, haction, howner, Callable.defaultAction.eq_def, hkind]
  · intro hclass
    cases haction : call.callable.action with
    | some action => exact ⟨action, by rw [Bridge.actionOf, haction]⟩
    | none =>
      refine Bridge.exists_actionOf_eq_ok (fun hkind => ?_) slots result held
      exact Option.isSome_iff_ne_none.2 fun howner => hclass ⟨hkind, haction, howner⟩

/-- What making a bridge comes to is decided by its action. -/
theorem make_outcome (sources : Sources) (call : BridgeCall) (name : String)
    (lookups : LookupState) :
    (call.LacksClass →
      ((Bridge.make sources call.callable call.owner name).run.run lookups).1 =
        .error (.memberOutsideClass call.callable.name)) ∧
    (¬call.LacksClass → ∃ made,
      ((Bridge.make sources call.callable call.owner name).run.run lookups).1 = .ok made) := by
  have haction := call.actionOf_eq
  unfold Bridge.make
  dsimp only
  rw [Bridge.run_lift_bind, Bridge.run_lift_bind, Bridge.run_lift_bind, Bridge.run_lift_bind]
  constructor
  · intro hclass
    rw [(haction _ _ _).1 hclass]
    rfl
  · intro hclass
    obtain ⟨action, hok⟩ := (haction _ _ _).2 hclass
    rw [hok]
    exact ⟨_, rfl⟩

/-! ## What a call comes to -/

theorem run_of_taken {state : GeneratorState} {previous : Location}
    (hplain : call.callable.isOverloaded = false)
    (htaken : state.functionSymbols.find? (call.name setup) = some previous) :
    call.run setup state =
      (.error (.duplicateSymbol (call.name setup) call.callable.location previous),
        state.refuse (.wrapper (call.name setup)) call.callable.location previous) :=
  Generate.bridge_of_taken hplain htaken

/-- A call for a name that is free gives what making the bridge gives, and takes the name. -/
theorem run_of_free {state : GeneratorState} (hfree : call.callable.isOverloaded = false →
      state.functionSymbols.find? (call.name setup) = none) :
    (call.LacksClass →
      (call.run setup state).1 = .error (.memberOutsideClass call.callable.name)) ∧
    (¬call.LacksClass → ∃ made, (call.run setup state).1 = .ok made) ∧
    (call.run setup state).2.functionSymbols =
      Generate.symbolsWith setup call.callable call.owner state.functionSymbols := by
  obtain ⟨hlacks, hmade⟩ := call.make_outcome setup.sources (call.name setup) state.lookups
  rw [run, Generate.bridge_eq hfree]
  exact ⟨hlacks, hmade, rfl⟩

/-- What a call does to the names: one that is claimed is taken, unless it was before. -/
theorem find?_run (state : GeneratorState) (name : String) :
    (call.run setup state).2.functionSymbols.find? name =
      (state.functionSymbols.find? name).or
        (if call.Claims setup name then some call.callable.location else none) := by
  cases hoverloaded : call.callable.isOverloaded with
  | true =>
    have hfree : call.callable.isOverloaded = false →
        state.functionSymbols.find? (call.name setup) = none :=
      fun hplain => nomatch hoverloaded.symm.trans hplain
    have hclaims : ¬call.Claims setup name := fun h => nomatch hoverloaded.symm.trans h.1
    rw [(run_of_free hfree).2.2, Generate.symbolsWith, hoverloaded, if_pos rfl, if_neg hclaims,
      Option.or_none]
  | false =>
    have hclaims : call.Claims setup name ↔ call.name setup = name :=
      and_iff_right hoverloaded
    simp only [hclaims]
    cases htaken : state.functionSymbols.find? (call.name setup) with
    | some previous =>
      rw [run_of_taken hoverloaded htaken, GeneratorState.refuse]
      split
      · next heq =>
        subst heq
        rw [htaken]
        rfl
      · exact (Option.or_none).symm
    | none =>
      rw [(run_of_free fun _ => htaken).2.2, Generate.symbolsWith, hoverloaded,
        if_neg Bool.false_ne_true]
      exact Symbols.find?_insert_of_free htaken call.callable.location name

/-- **The names that are taken** are those that were claimed, each by the first call for it. -/
theorem find?_after (setup : Setup) (calls : List BridgeCall) (name : String) :
    (after setup calls).functionSymbols.find? name =
      (firstClaim? setup name calls).map (·.callable.location) := by
  induction calls using List.reverseRecOn with
  | nil => rfl
  | append_singleton calls call ih =>
    rw [after_concat, find?_run, ih, firstClaim?, firstClaim?, List.find?_append, Option.map_or,
      List.find?_singleton]
    by_cases h : call.Claims setup name <;> simp [h]

theorem isTaken_iff : call.IsTaken setup before ↔
    call.callable.isOverloaded = false ∧ (firstClaim? setup (call.name setup) before).isSome := by
  refine and_congr_right fun _ => ?_
  rw [firstClaim?, List.find?_isSome]
  simp only [decide_eq_true_eq]

/-- What a call comes to after others. -/
structure Outcome (setup : Setup) (before : List BridgeCall) (call : BridgeCall) : Prop where
  /-- A name that was claimed is refused, and the names stay as they are. -/
  taken : call.IsTaken setup before →
    (∃ first, firstClaim? setup (call.name setup) before = some first ∧
      call.result setup before = .error (.duplicateSymbol (call.name setup)
        call.callable.location first.callable.location)) ∧
    (after setup (before ++ [call])).functionSymbols = (after setup before).functionSymbols
  /-- Otherwise a constructor is refused that lacks its class. -/
  refused : ¬call.IsTaken setup before → call.LacksClass →
    call.result setup before = .error (.memberOutsideClass call.callable.name)
  /-- In all other cases a bridge is made. -/
  made : ¬call.IsTaken setup before → ¬call.LacksClass →
    ∃ made, call.result setup before = .ok made
  /-- The name is taken whether a bridge was made or not. -/
  symbols : ¬call.IsTaken setup before → (after setup (before ++ [call])).functionSymbols =
    Generate.symbolsWith setup call.callable call.owner (after setup before).functionSymbols

theorem outcome (setup : Setup) (before : List BridgeCall) (call : BridgeCall) :
    call.Outcome setup before := by
  have hfree (h : ¬call.IsTaken setup before) : call.callable.isOverloaded = false →
      (after setup before).functionSymbols.find? (call.name setup) = none := by
    intro hplain
    rw [isTaken_iff, not_and, Bool.not_eq_true, Option.isSome_eq_false_iff,
      Option.isNone_iff_eq_none] at h
    rw [find?_after, h hplain, Option.map_none]
  refine ⟨fun h => ?_, fun h => (run_of_free (hfree h)).1, fun h => (run_of_free (hfree h)).2.1,
    fun h => ?_⟩
  · obtain ⟨hplain, hsome⟩ := isTaken_iff.1 h
    obtain ⟨first, hfirst⟩ := Option.isSome_iff_exists.1 hsome
    have htaken : (after setup before).functionSymbols.find? (call.name setup) =
        some first.callable.location := by
      rw [find?_after, hfirst, Option.map_some]
    have hrun := run_of_taken hplain htaken
    refine ⟨⟨first, hfirst, congrArg Prod.fst hrun⟩, ?_⟩
    rw [after_concat, hrun, GeneratorState.refuse]
  · rw [after_concat]
    exact (run_of_free (hfree h)).2.2

/-! ## Refusals as they should be -/

/-- A bridge is made by the call. -/
def Succeeds (setup : Setup) (before : List BridgeCall) (call : BridgeCall) : Prop :=
  ∃ made, call.result setup before = .ok made

/-- Among some calls there is one that claims a name and that a bridge is made by. -/
def IsMade (setup : Setup) (calls : List BridgeCall) (name : String) : Prop :=
  ∃ before call rest, calls = before ++ call :: rest ∧ call.Claims setup name ∧
    call.Succeeds setup before

/-- Members outside of a class are refused, otherwise names are refused under which a bridge was
made, and a call that fails changes no names. -/
structure FailsAsDocumented (setup : Setup) (before : List BridgeCall) (call : BridgeCall) :
    Prop where
  outside : call.result setup before = .error (.memberOutsideClass call.callable.name) ↔
    call.IsOutside
  duplicate : ¬call.IsOutside →
    ((∃ previous, call.result setup before = .error (.duplicateSymbol (call.name setup)
        call.callable.location previous)) ↔
      call.callable.isOverloaded = false ∧ IsMade setup before (call.name setup))
  unchanged : ∀ error, call.result setup before = .error error →
    (after setup (before ++ [call])).functionSymbols = (after setup before).functionSymbols

/-! ### What the results say -/

theorem result_eq_outside_iff :
    call.result setup before = .error (.memberOutsideClass call.callable.name) ↔
      ¬call.IsTaken setup before ∧ call.LacksClass := by
  have houtcome := outcome setup before call
  by_cases htaken : call.IsTaken setup before
  · obtain ⟨⟨first, -, hresult⟩, -⟩ := houtcome.taken htaken
    rw [hresult]
    exact iff_of_false nofun fun h => h.1 htaken
  · by_cases hlacks : call.LacksClass
    · exact iff_of_true (houtcome.refused htaken hlacks) ⟨htaken, hlacks⟩
    · obtain ⟨made, hmade⟩ := houtcome.made htaken hlacks
      rw [hmade]
      exact iff_of_false nofun fun h => hlacks h.2

theorem result_eq_duplicate_iff :
    (∃ previous, call.result setup before = .error (.duplicateSymbol (call.name setup)
      call.callable.location previous)) ↔ call.IsTaken setup before := by
  have houtcome := outcome setup before call
  by_cases htaken : call.IsTaken setup before
  · obtain ⟨⟨first, -, hresult⟩, -⟩ := houtcome.taken htaken
    exact iff_of_true ⟨_, hresult⟩ htaken
  · refine iff_of_false ?_ htaken
    rintro ⟨previous, hresult⟩
    by_cases hlacks : call.LacksClass
    · cases hresult.symm.trans (houtcome.refused htaken hlacks)
    · obtain ⟨made, hmade⟩ := houtcome.made htaken hlacks
      cases hresult.symm.trans hmade

theorem succeeds_iff : call.Succeeds setup before ↔
    ¬call.IsTaken setup before ∧ ¬call.LacksClass := by
  refine ⟨?_, fun h => (outcome setup before call).made h.1 h.2⟩
  rintro ⟨made, hmade⟩
  have htaken : ¬call.IsTaken setup before := by
    intro htaken
    obtain ⟨previous, hresult⟩ := result_eq_duplicate_iff.2 htaken
    cases hmade.symm.trans hresult
  refine ⟨htaken, fun hlacks => ?_⟩
  cases hmade.symm.trans (result_eq_outside_iff.2 ⟨htaken, hlacks⟩)

/-- A bridge was made under a name exactly if the first call for it was not for a constructor that
lacks its class. -/
theorem isMade_iff {name : String} : IsMade setup calls name ↔
    ∃ first, firstClaim? setup name calls = some first ∧ ¬first.LacksClass := by
  constructor
  · rintro ⟨before, call, rest, rfl, hclaims, hsucceeds⟩
    obtain ⟨htaken, hlacks⟩ := succeeds_iff.1 hsucceeds
    refine ⟨call, List.find?_eq_some_iff_append.2 ⟨decide_eq_true hclaims, before, rest, rfl, ?_⟩,
      hlacks⟩
    intro earlier hearlier
    rw [Bool.not_eq_true', decide_eq_false_iff_not]
    exact fun h => htaken ⟨hclaims.1, earlier, hearlier, hclaims.2 ▸ h⟩
  · rintro ⟨first, hfirst, hlacks⟩
    obtain ⟨hclaims, before, rest, rfl, hbefore⟩ := List.find?_eq_some_iff_append.1 hfirst
    have hclaims : first.Claims setup name := of_decide_eq_true hclaims
    refine ⟨before, first, rest, rfl, hclaims, succeeds_iff.2 ⟨?_, hlacks⟩⟩
    rintro ⟨-, earlier, hearlier, h⟩
    have hnone := hbefore earlier hearlier
    rw [Bool.not_eq_true', decide_eq_false_iff_not] at hnone
    exact hnone (hclaims.2 ▸ h)

/-- A call that fails changes no names unless it is for a constructor that lacks its class and is
the first to claim its name. -/
theorem unchanged_iff :
    (∀ error, call.result setup before = .error error →
      (after setup (before ++ [call])).functionSymbols = (after setup before).functionSymbols) ↔
    (¬call.IsTaken setup before → call.LacksClass → call.callable.isOverloaded = true) := by
  have houtcome := outcome setup before call
  constructor
  · intro h htaken hlacks
    have hsame := h _ (houtcome.refused htaken hlacks)
    by_contra hplain
    rw [Bool.not_eq_true] at hplain
    rw [houtcome.symbols htaken, Generate.symbolsWith, hplain, if_neg Bool.false_ne_true] at hsame
    -- The name of the call is found in the one table, but not in the other.
    have hnone : (after setup before).functionSymbols.find? (call.name setup) = none := by
      rw [isTaken_iff, not_and, Bool.not_eq_true, Option.isSome_eq_false_iff,
        Option.isNone_iff_eq_none] at htaken
      rw [find?_after, htaken hplain, Option.map_none]
    rw [← hsame, name, Dict.find?_insert, if_pos rfl] at hnone
    cases hnone
  · intro h error hresult
    by_cases htaken : call.IsTaken setup before
    · exact (houtcome.taken htaken).2
    · have hlacks : call.LacksClass := by
        by_contra hlacks
        obtain ⟨made, hmade⟩ := houtcome.made htaken hlacks
        cases hresult.symm.trans hmade
      rw [houtcome.symbols htaken, Generate.symbolsWith, if_pos (h htaken hlacks)]

/-- **Bridges are refused as they should be** by a call exactly if, in case it is for a member
outside of a class, that is an overloaded constructor without an action, and if otherwise the first
call that claimed its name, should it be taken, was not for a constructor that lacks its class. -/
theorem failsAsDocumented_iff : call.FailsAsDocumented setup before ↔
    (call.IsOutside → call.LacksClass ∧ call.callable.isOverloaded = true) ∧
    (¬call.IsOutside → call.callable.isOverloaded = false →
      ∀ first, firstClaim? setup (call.name setup) before = some first → ¬first.LacksClass) := by
  constructor
  · intro h
    refine ⟨fun houtside => ?_, fun hinside hplain first hfirst hlacks => ?_⟩
    · obtain ⟨htaken, hlacks⟩ := result_eq_outside_iff.1 (h.outside.2 houtside)
      exact ⟨hlacks, unchanged_iff.1 h.unchanged htaken hlacks⟩
    · have htaken : call.IsTaken setup before := by
        rw [isTaken_iff, hfirst]
        exact ⟨hplain, rfl⟩
      obtain ⟨-, hmade⟩ := (h.duplicate hinside).1 (result_eq_duplicate_iff.2 htaken)
      obtain ⟨first', hfirst', hnot⟩ := isMade_iff.1 hmade
      obtain rfl := Option.some.inj (hfirst.symm.trans hfirst')
      exact hnot hlacks
  · rintro ⟨houtside, hinside⟩
    refine ⟨?_, fun hin => ?_, unchanged_iff.2 fun _ hlacks => (houtside hlacks.isOutside).2⟩
    · rw [result_eq_outside_iff]
      refine ⟨fun h => h.2.isOutside, fun hout => ?_⟩
      obtain ⟨hlacks, hoverloaded⟩ := houtside hout
      exact ⟨fun htaken => (nomatch hoverloaded.symm.trans htaken.1), hlacks⟩
    · rw [result_eq_duplicate_iff, isMade_iff, isTaken_iff]
      refine and_congr_right fun hplain => ⟨fun hsome => ?_, ?_⟩
      · obtain ⟨first, hfirst⟩ := Option.isSome_iff_exists.1 hsome
        exact ⟨first, hfirst, hinside hin hplain first hfirst⟩
      · rintro ⟨first, hfirst, -⟩
        rw [hfirst]
        rfl

/-- **When a bridge is refused.** In any sequence of calls, each call comes to what its outcome
says: it is refused if its name was claimed before, whatever the first call for the name gave, or
otherwise if it is for a constructor that lacks its class, and else a bridge is made. Members
outside of a class are refused, and names only under which a bridge was made, and refused calls
change no names, exactly under the conditions of `failsAsDocumented_iff`, hence wherever all members
have their class. -/
theorem refusals_exact (setup : Setup) (before : List BridgeCall) (call : BridgeCall) :
    call.Outcome setup before ∧
    (call.FailsAsDocumented setup before ↔
      (call.IsOutside → call.LacksClass ∧ call.callable.isOverloaded = true) ∧
      (¬call.IsOutside → call.callable.isOverloaded = false →
        ∀ first, firstClaim? setup (call.name setup) before = some first →
          ¬first.LacksClass)) ∧
    ((∀ other ∈ before ++ [call], ¬other.IsOutside) → call.FailsAsDocumented setup before) := by
  refine ⟨outcome setup before call, failsAsDocumented_iff, fun h => ?_⟩
  have hinside : ¬call.IsOutside := h call (List.mem_append_right _ List.mem_cons_self)
  refine failsAsDocumented_iff.2 ⟨fun houtside => absurd houtside hinside, ?_⟩
  intro _ _ first hfirst hlacks
  exact h first (List.mem_append_left _ (List.mem_of_find?_eq_some hfirst)) hlacks.isOutside

/-- A module without any declarations. -/
def workshop : Setup := ⟨.builtin { name := "workshop" }, {}⟩

/-- The constructor of a class that is not at hand, under a name of its own. -/
def makeTool : BridgeCall where
  callable := { name := "Tool", kind := .constructor, symbol := some "make" }
  owner := none

/-- A free function of this name. -/
def make : BridgeCall where
  callable := { name := "make", kind := .freeFunction }
  owner := none

/-- A method of a class that is not at hand. -/
def resetTool : BridgeCall where
  callable := { name := "reset", kind := .method false }
  owner := none

/-- **Bridges may be refused otherwise.** The constructor fails, but takes its name, so the function
is refused although no bridge was made under the name. The method does not fail. -/
theorem not_failsAsDocumented : ¬makeTool.FailsAsDocumented workshop [] ∧
    ¬make.FailsAsDocumented workshop [makeTool] ∧
    ¬resetTool.FailsAsDocumented workshop [] := by
  simp only [failsAsDocumented_iff]
  refine ⟨fun h => ?_, fun h => ?_, fun h => ?_⟩
  · exact absurd (h.1 ⟨rfl, rfl⟩).2 (by decide)
  · refine h.2 (fun houtside => absurd houtside.1 (by decide)) rfl makeTool ?_ ⟨rfl, rfl, rfl⟩
    exact List.find?_cons_of_pos (by decide +kernel)
  · exact absurd (h.1 ⟨rfl, rfl⟩).1.1 (by decide)

end BridgeCall

end FortranBindings
