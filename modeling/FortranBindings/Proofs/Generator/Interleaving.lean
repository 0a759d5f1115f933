import FortranBindings.Proofs.Generator.ClassSteps
import FortranBindings.Proofs.Decl.Spelled
import FortranBindings.Proofs.Template.Coverage

/-!
# Classes that are generated at the same time

Several classes may be open at a time, and the steps that they are generated by may be taken in any
order of the classes (`Interleaving.run`). A class is then in the state that it has if it is
generated alone, as far as it has come (`Interleaving.isAt_run`), for the names that its steps
give away are its own. So a class gets the same derived type and its members get the same wrappers,
interfaces, routines and entries whatever the order is, and the streams of the module consist of
these blocks (`Interleaving.interleavings_agree`). This needs that types are told apart by the way
they are written (`Interleaving.not_interleavings_agree`).
-/

namespace FortranBindings

open Generate

/-! ## One class -/

/-- A class that is being generated, perhaps along with others. -/
structure Lane where
  cls : Class
  /-- The class while it is open. -/
  opened? : Option OpenClass := none
  /-- What each of the steps so far has added. -/
  added : List Blocks := []

namespace Lane

/-- The next step for a class: it is opened, its members are generated in order, it is closed. If
the class is open then it is given back. -/
def next (setup : Setup) (lane : Lane) : Generate (Option OpenClass) :=
  match lane.added.length, lane.opened? with
  | 0, _ => do
    let opened ← openClass lane.cls
    return some opened
  | _ + 1, none => return none
  | n + 1, some opened =>
    match lane.cls.members[n]? with
    | some callable => function setup callable (some opened)
    | none => do
      closeClass setup opened
      return none

/-- Take the next step for a class. If it fails the class stays as it is. -/
def step (setup : Setup) (lane : Lane) (state : GeneratorState) : Lane × GeneratorState :=
  let (result, next) := (lane.next setup).run.run state
  ({ lane with
      opened? := result.toOption.getD lane.opened?
      added := lane.added ++ [state.since next] }, next)

/-- The class that is open is the class itself, under the name of its derived type. -/
def IsProper (lane : Lane) : Prop :=
  ∀ o ∈ lane.opened?, o.cls = lane.cls ∧ o.name = lane.cls.publicName

variable {setup : Setup} {lane : Lane} {state other next : GeneratorState}
  {result : Except GenerateError (Option OpenClass)}

theorem step_of_run (h : (lane.next setup).run.run state = (result, next)) :
    lane.step setup state =
      ({ lane with
          opened? := result.toOption.getD lane.opened?
          added := lane.added ++ [state.since next] }, next) := by
  rw [step, h]

theorem isProper_step (h : lane.IsProper) (setup : Setup) (state : GeneratorState) :
    (lane.step setup state).1.IsProper := by
  rcases hrun : (lane.next setup).run.run state with ⟨error | opened?, next⟩
  · rw [step_of_run hrun]
    exact h
  · rw [step_of_run hrun]
    change ∀ o ∈ opened?, o.cls = lane.cls ∧ o.name = lane.cls.publicName
    unfold Lane.next at hrun
    split at hrun
    · cases hfind : state.classSymbols.find? lane.cls.publicName with
      | some previous =>
        rw [run_bind_of_error (openClass_of_taken hfind)] at hrun
        cases hrun
      | none =>
        rw [run_bind_of_ok (openClass_of_free hfind)] at hrun
        cases hrun
        rintro _ ⟨⟩
        exact ⟨rfl, rfl⟩
    · cases hrun
      exact nofun
    · next opened _ hopened =>
      obtain ⟨hcls, hname⟩ := h opened hopened
      split at hrun
      · next callable _ =>
        obtain ⟨made, -, -, rfl, -⟩ := function_eq_ok hrun
        rintro _ ⟨⟩
        exact ⟨Made.bindIn_cls.trans hcls, Made.bindIn_name.trans hname⟩
      · obtain ⟨data, lookups, hclose⟩ := closeClass_eq setup opened state
        rw [run_bind_of_ok hclose] at hrun
        cases hrun
        exact nofun

end Lane

/-- The names that a class and its members need for themselves. -/
def Class.uniqueNames (setup : Setup) (cls : Class) : List UniqueName :=
  .derivedType cls.publicName ::
    (cls.members.filter (!·.isOverloaded)).map fun f => .wrapper (wrapperName setup f (some cls))

theorem Class.mem_uniqueNames {setup : Setup} {cls : Class} {f : Callable}
    (hf : f ∈ cls.members) (hplain : f.isOverloaded = false) :
    .wrapper (wrapperName setup f (some cls)) ∈ cls.uniqueNames setup := by
  refine List.mem_cons_of_mem _ (List.mem_map.2 ⟨f, List.mem_filter.2 ⟨hf, ?_⟩, rfl⟩)
  rw [hplain]
  rfl

/-- A class with a plain name, whose members have types that can be read from spellings. -/
structure Class.IsReadable (cls : Class) : Prop where
  plain : cls.HasPlainName
  spelled : ∀ member ∈ cls.members, member.IsSpelled

/-- A class of a document is readable if its name is plain. -/
theorem Class.isReadable_of_ofJson {document : Json} {cls : Class}
    (h : ofJson document = .ok cls) (hplain : cls.HasPlainName) : cls.IsReadable :=
  ⟨hplain, isSpelled_of_ofJson h⟩

namespace Lane

variable {setup : Setup} {lane : Lane} {state other : GeneratorState}

/-- The steps for a class are uniform for its names. -/
theorem next_isUniform (h : lane.IsProper) (hcls : lane.cls.IsReadable) :
    IsUniform setup (lane.cls.uniqueNames setup) (lane.next setup) := by
  unfold next
  split
  · exact (openClass_isUniform List.mem_cons_self).bind fun _ => .pure _
  · exact .pure none
  · next opened _ hopened =>
    obtain ⟨heq, -⟩ := h opened hopened
    rw [← heq] at hcls ⊢
    split
    · next callable hcallable =>
      have hmem := List.mem_of_getElem? hcallable
      exact function_isUniform (hcls.spelled callable hmem) hcls.plain
        fun hplain => Class.mem_uniqueNames hmem hplain
    · exact (closeClass_isUniform hcls.plain).bind fun _ => .pure none

/-- In states that are alike for its names, a class takes the same step. -/
theorem step_alike (h : lane.IsProper) (hcls : lane.cls.IsReadable)
    (halike : Alike setup (lane.cls.uniqueNames setup) state other) :
    (lane.step setup state).1 = (lane.step setup other).1 ∧
      Alike setup (lane.cls.uniqueNames setup) (lane.step setup state).2
        (lane.step setup other).2 := by
  obtain ⟨result, added, next, next', hrun, hrun', hgains, hgains', hnext⟩ :=
    (next_isUniform h hcls).same halike
  rw [step_of_run hrun, step_of_run hrun', hgains.since_eq, hgains'.since_eq]
  exact ⟨rfl, hnext⟩

/-- Names of other classes are left alone. -/
theorem place?_step (h : lane.IsProper) (hcls : lane.cls.IsReadable) {name : UniqueName}
    (hname : name ∉ lane.cls.uniqueNames setup) (state : GeneratorState) :
    (lane.step setup state).2.place? name = state.place? name :=
  (next_isUniform h hcls).spares hname state

/-- The blocks that a step adds are behind those that there were. -/
theorem gains_step (h : lane.IsProper) (hcls : lane.cls.IsReadable) (hs : IsSound setup state) :
    ∃ added, state.Gains (lane.step setup state).2 added ∧
      (lane.step setup state).1.added = lane.added ++ [added] := by
  have halike : Alike setup (lane.cls.uniqueNames setup) state state := ⟨hs, hs, fun _ _ => rfl⟩
  obtain ⟨result, added, next, -, hrun, -, hgains, -, -⟩ :=
    (next_isUniform h hcls).same halike
  rw [step_of_run hrun, hgains.since_eq]
  exact ⟨added, hgains, rfl⟩

end Lane

/-- A class after some of its steps, if it is generated alone, and the state that this leads to. -/
def Class.alone (setup : Setup) (cls : Class) : Nat → Lane × GeneratorState
  | 0 => ({ cls }, {})
  | n + 1 => (cls.alone setup n).1.step setup (cls.alone setup n).2

namespace Class

variable {setup : Setup} {cls : Class}

@[simp]
theorem cls_alone (setup : Setup) (cls : Class) (n : Nat) : (cls.alone setup n).1.cls = cls := by
  induction n with
  | zero => rfl
  | succ n ih => exact ih

theorem isProper_alone (setup : Setup) (cls : Class) (n : Nat) :
    (cls.alone setup n).1.IsProper := by
  induction n with
  | zero => exact nofun
  | succ n ih => exact Lane.isProper_step ih setup _

@[simp]
theorem length_added_alone (setup : Setup) (cls : Class) (n : Nat) :
    (cls.alone setup n).1.added.length = n := by
  induction n with
  | zero => rfl
  | succ n ih => exact List.length_append.trans (congrArg (· + 1) ih)

/-- What is kept of answers while a class is generated alone is sound. -/
theorem sound_alone (h : cls.IsReadable) (n : Nat) : IsSound setup (cls.alone setup n).2 := by
  induction n with
  | zero => exact LookupState.sound_empty setup.sources
  | succ n ih =>
    have hcls : (cls.alone setup n).1.cls.IsReadable := by rwa [cls_alone]
    exact (Lane.step_alike (isProper_alone setup cls n) hcls ⟨ih, ih, fun _ _ => rfl⟩).2.sound

/-- A member of a class adds no derived type. -/
theorem types_since_function {f : Callable} {o : OpenClass} {state next : GeneratorState}
    {result : Except GenerateError (Option OpenClass)}
    (h : (function setup f (some o)).run.run state = (result, next)) :
    state.since next .types = [] := by
  cases result with
  | error error =>
    have htypes : next.parts.types = state.parts.types := by
      rcases function_error h with ⟨-, -, rfl⟩ | ⟨previous, -, rfl⟩ <;> rfl
    exact (congrArg (List.drop state.parts.types.length) htypes).trans List.drop_length
  | ok bound =>
    obtain ⟨made, lookups, -, -, rfl, -⟩ := function_eq_ok h
    exact congrFun (GeneratorState.gains_adding setup f o.cls made lookups state).since_eq .types

/-- A class that is generated alone stays open until all of its members were generated, and has no
derived type before it is closed. -/
theorem alone_isOpen (setup : Setup) (cls : Class) {n : Nat} (hn : n ≤ cls.members.length) :
    ∃ o, (cls.alone setup (n + 1)).1.opened? = some o ∧
      (cls.alone setup (n + 1)).1.added.flatMap (· .types) = [] := by
  induction n with
  | zero =>
    have hopen : (openClass cls).run.run {} = (.ok { cls, name := cls.publicName }, _) :=
      openClass_of_free rfl
    have hrun : (Lane.next setup { cls }).run.run {} = _ := run_bind_of_ok hopen
    refine ⟨{ cls, name := cls.publicName }, ?_⟩
    rw [alone, alone, Lane.step_of_run hrun]
    exact ⟨rfl, rfl⟩
  | succ n ih =>
    obtain ⟨o, hopened, htypes⟩ := ih (Nat.le_of_succ_le hn)
    have hmember : (cls.alone setup (n + 1)).1.cls.members[n]? = some cls.members[n] := by
      rw [cls_alone]
      exact List.getElem?_eq_getElem hn
    have hnext : (cls.alone setup (n + 1)).1.next setup =
        function setup cls.members[n] (some o) := by
      rw [Lane.next, length_added_alone, hopened]
      dsimp only
      rw [hmember]
    rw [alone]
    rcases hrun : ((cls.alone setup (n + 1)).1.next setup).run.run (cls.alone setup (n + 1)).2
      with ⟨error | bound, next⟩
    · have hadded := types_since_function (hnext ▸ hrun)
      rw [Lane.step_of_run hrun, List.flatMap_append, htypes]
      exact ⟨o, hopened, by rw [List.flatMap_singleton, hadded, List.nil_append]⟩
    · have hadded := types_since_function (hnext ▸ hrun)
      obtain ⟨made, -, -, rfl, -⟩ := function_eq_ok (hnext ▸ hrun)
      rw [Lane.step_of_run hrun, List.flatMap_append, htypes]
      exact ⟨made.bindIn cls.members[n] o, rfl,
        by rw [List.flatMap_singleton, hadded, List.nil_append]⟩

/-- **A class that is generated alone** gets one derived type, under its public name. -/
theorem exists_types_alone (setup : Setup) (cls : Class) : ∃ o data, o.cls = cls ∧
    o.name = cls.publicName ∧
    (cls.alone setup (cls.members.length + 2)).1.added.flatMap (· .types) =
      derivedTypes setup o data := by
  obtain ⟨o, hopened, htypes⟩ := alone_isOpen setup cls (Nat.le_refl cls.members.length)
  obtain ⟨hcls, hname⟩ := isProper_alone setup cls _ o hopened
  rw [cls_alone] at hcls hname
  have hmember : (cls.alone setup (cls.members.length + 1)).1.cls.members[cls.members.length]? =
      none := by
    rw [cls_alone]
    exact List.getElem?_eq_none (Nat.le_refl _)
  have hnext : (cls.alone setup (cls.members.length + 1)).1.next setup = (do
      closeClass setup o
      return none) := by
    rw [Lane.next, length_added_alone, hopened]
    dsimp only
    rw [hmember]
  obtain ⟨data, lookups, hclose⟩ :=
    closeClass_eq setup o (cls.alone setup (cls.members.length + 1)).2
  have hrun : ((cls.alone setup (cls.members.length + 1)).1.next setup).run.run
      (cls.alone setup (cls.members.length + 1)).2 = _ :=
    (congrArg (fun step : Generate _ => step.run.run _) hnext).trans (run_bind_of_ok hclose)
  refine ⟨o, data, hcls, hname, ?_⟩
  rw [alone, Lane.step_of_run hrun, List.flatMap_append, htypes, List.flatMap_singleton]
  exact List.drop_left

end Class

/-! ## Several classes -/

/-- Classes that are generated at the same time. -/
structure Interleaving where
  state : GeneratorState := {}
  lanes : List Lane
  /-- What the steps so far have added, in the order in which they were taken. -/
  log : List Blocks := []

namespace Interleaving

/-- Take the next step for the class at a position. -/
def step (setup : Setup) (run : Interleaving) (position : Nat) : Interleaving :=
  match run.lanes[position]? with
  | none => run
  | some lane =>
    let (next, state) := lane.step setup run.state
    { state
      lanes := run.lanes.set position next
      log := run.log ++ [run.state.since state] }

/-- Generate classes from the start, by steps for the classes at these positions. -/
def run (setup : Setup) (classes : List Class) (schedule : List Nat) : Interleaving :=
  schedule.foldl (step setup) { lanes := classes.map fun cls => { cls } }

/-- Does the schedule have all the steps for the classes? A class is opened, each of its members is
generated and it is closed. -/
def IsSchedule (classes : List Class) (schedule : List Nat) : Prop :=
  ∀ position, schedule.count position =
    (classes[position]?.map fun cls => cls.members.length + 2).getD 0

variable {setup : Setup} {classes : List Class} {schedule : List Nat} {run : Interleaving}

theorem run_concat (setup : Setup) (classes : List Class) (schedule : List Nat) (position : Nat) :
    Interleaving.run setup classes (schedule ++ [position]) =
      (Interleaving.run setup classes schedule).step setup position :=
  List.foldl_append

theorem step_of_lane {position : Nat} {lane : Lane} (h : run.lanes[position]? = some lane) :
    run.step setup position =
      { state := (lane.step setup run.state).2
        lanes := run.lanes.set position (lane.step setup run.state).1
        log := run.log ++ [run.state.since (lane.step setup run.state).2] } := by
  rw [step, h]

theorem step_of_no_lane {position : Nat} (h : run.lanes[position]? = none) :
    run.step setup position = run := by
  rw [step, h]

/-- The classes have names of their own. -/
def AreApart (setup : Setup) (classes : List Class) : Prop :=
  ∀ ⦃position position' : Nat⦄ ⦃cls cls' : Class⦄, classes[position]? = some cls →
    classes[position']? = some cls' → position ≠ position' →
    ∀ name ∈ cls.uniqueNames setup, name ∉ cls'.uniqueNames setup

/-- Each class is in the state that it has when it's generated alone, after as many steps. -/
structure IsAt (setup : Setup) (classes : List Class) (schedule : List Nat)
    (run : Interleaving) : Prop where
  sound : IsSound setup run.state
  lanes : ∀ position, run.lanes[position]? =
    classes[position]?.map fun cls : Class => (cls.alone setup (schedule.count position)).1
  agree : ∀ {position : Nat} {cls : Class}, classes[position]? = some cls →
    run.state.AgreeOn (cls.uniqueNames setup) (cls.alone setup (schedule.count position)).2

theorem IsAt.step (hreadable : ∀ cls ∈ classes, cls.IsReadable) (hapart : AreApart setup classes)
    (h : IsAt setup classes schedule run) (position : Nat) :
    IsAt setup classes (schedule ++ [position]) (run.step setup position) := by
  have hcount : ∀ other, position ≠ other →
      (schedule ++ [position]).count other = schedule.count other := by
    intro other hne
    rw [List.count_append, List.count_singleton, beq_false_of_ne hne]
    rfl
  have hlane := h.lanes position
  cases hcls : classes[position]? with
  | none =>
    rw [hcls] at hlane
    rw [step_of_no_lane hlane]
    have hother : ∀ other, classes[other]? ≠ none → position ≠ other := by
      rintro other hne rfl
      exact hne hcls
    refine ⟨h.sound, fun other => ?_, fun {other cls} hsome => ?_⟩
    · rw [h.lanes other]
      cases hsome : classes[other]? with
      | none => rfl
      | some cls => rw [hcount other (hother other (by rw [hsome]; nofun))]
    · rw [hcount other (hother other (by rw [hsome]; nofun))]
      exact h.agree hsome
  | some cls =>
    rw [hcls] at hlane
    rw [step_of_lane hlane]
    let lane := (cls.alone setup (schedule.count position)).1
    have hproper : lane.IsProper := Class.isProper_alone setup cls _
    have hcls' : lane.cls = cls := Class.cls_alone setup cls _
    have hread : lane.cls.IsReadable := hcls'.symm ▸ hreadable cls (List.mem_of_getElem? hcls)
    have halike : Alike setup (lane.cls.uniqueNames setup) run.state
        (cls.alone setup (schedule.count position)).2 :=
      ⟨h.sound, Class.sound_alone (hcls' ▸ hread) _, by rw [hcls']; exact h.agree hcls⟩
    obtain ⟨hsame, hnext⟩ := Lane.step_alike hproper hread halike
    have hself : (schedule ++ [position]).count position = schedule.count position + 1 := by
      rw [List.count_append, List.count_singleton_self]
    refine ⟨hnext.sound, fun other => ?_, fun {other cls'} hsome => ?_⟩
    · by_cases hne : position = other
      · subst hne
        rw [hcls, hself, Option.map_some, Class.alone, List.getElem?_set_self']
        rw [hlane]
        exact congrArg some hsame
      · rw [hcount other hne, ← h.lanes other, List.getElem?_set_ne hne]
    · by_cases hne : position = other
      · subst hne
        obtain rfl := Option.some.inj (hcls.symm.trans hsome)
        have hagree := hnext.agree
        rw [hcls'] at hagree
        rwa [hself]
      · rw [hcount other hne]
        intro name hname
        have hspared : name ∉ lane.cls.uniqueNames setup := by
          rw [hcls']
          exact fun hmem => hapart hcls hsome hne name hmem hname
        exact (Lane.place?_step hproper hread hspared run.state).trans (h.agree hsome name hname)

/-- Whatever the order of the steps is, each class is in the state that it has if it is generated
alone. -/
theorem isAt_run (hreadable : ∀ cls ∈ classes, cls.IsReadable) (hapart : AreApart setup classes)
    (schedule : List Nat) :
    IsAt setup classes schedule (Interleaving.run setup classes schedule) := by
  induction schedule using List.reverseRecOn with
  | nil =>
    refine ⟨LookupState.sound_empty setup.sources, fun position => ?_, fun _ _ _ => rfl⟩
    exact List.getElem?_map
  | append_singleton schedule position ih =>
    rw [run_concat]
    exact ih.step hreadable hapart position

/-! ## The streams -/

/-- The streams have the blocks that the steps added, in the order in which they were taken, and
these are the blocks of the classes. -/
structure IsWoven (run : Interleaving) : Prop where
  blocks : ∀ stream, run.state.blocks stream = run.log.flatMap (· stream)
  log : run.log.Perm (run.lanes.flatMap Lane.added)

theorem perm_flatMap_set {lanes : List Lane} {position : Nat} {lane next : Lane} {added : Blocks}
    (h : lanes[position]? = some lane) (hnext : next.added = lane.added ++ [added]) :
    ((lanes.set position next).flatMap Lane.added).Perm (lanes.flatMap Lane.added ++ [added]) := by
  induction lanes generalizing position with
  | nil => cases h
  | cons head rest ih =>
    cases position with
    | zero =>
      cases h
      rw [List.set_cons_zero, List.flatMap_cons, List.flatMap_cons, hnext, List.append_assoc,
        List.append_assoc]
      exact List.perm_append_comm.append_left _
    | succ position =>
      rw [List.set_cons_succ, List.flatMap_cons, List.flatMap_cons, List.append_assoc]
      exact (ih h).append_left _

theorem IsWoven.step (hreadable : ∀ cls ∈ classes, cls.IsReadable)
    (hat : IsAt setup classes schedule run) (h : run.IsWoven) (position : Nat) :
    (run.step setup position).IsWoven := by
  have hlane := hat.lanes position
  cases hcls : classes[position]? with
  | none =>
    rw [hcls] at hlane
    rwa [step_of_no_lane hlane]
  | some cls =>
    rw [hcls] at hlane
    have hread : (cls.alone setup (schedule.count position)).1.cls.IsReadable := by
      rw [Class.cls_alone]
      exact hreadable cls (List.mem_of_getElem? hcls)
    obtain ⟨added, hgains, hadded⟩ :=
      Lane.gains_step (Class.isProper_alone setup cls _) hread hat.sound
    rw [step_of_lane hlane]
    refine ⟨fun stream => ?_, ?_⟩
    · rw [List.flatMap_append, List.flatMap_singleton, hgains.since_eq, ← h.blocks stream]
      exact hgains stream
    · rw [hgains.since_eq]
      exact (h.log.append_right [added]).trans (perm_flatMap_set hlane hadded).symm

theorem isWoven_run (hreadable : ∀ cls ∈ classes, cls.IsReadable)
    (hapart : AreApart setup classes) (schedule : List Nat) :
    (Interleaving.run setup classes schedule).IsWoven := by
  induction schedule using List.reverseRecOn with
  | nil =>
    have hnone : (classes.map fun cls : Class => ({ cls } : Lane)).flatMap Lane.added = [] :=
      List.flatMap_eq_nil_iff.2 fun lane hlane => by
        obtain ⟨cls, -, rfl⟩ := List.mem_map.1 hlane
        rfl
    refine ⟨fun stream => by cases stream <;> rfl, ?_⟩
    change List.Perm [] ((classes.map fun cls : Class => ({ cls } : Lane)).flatMap Lane.added)
    rw [hnone]
  | append_singleton schedule position ih =>
    rw [run_concat]
    exact ih.step hreadable (isAt_run hreadable hapart schedule) position

/-- Classes are apart if their derived types have different names and no two members of different
classes share the name of a wrapper. -/
theorem areApart_of_names (hnames : (classes.map Class.publicName).Nodup)
    (hwrappers : classes.Pairwise fun cls other => ∀ f ∈ cls.members, ∀ g ∈ other.members,
      f.isOverloaded = false → g.isOverloaded = false →
        wrapperName setup f (some cls) ≠ wrapperName setup g (some other)) :
    AreApart setup classes := by
  have hdisjoint : classes.Pairwise fun cls other =>
      (cls.uniqueNames setup).Disjoint (other.uniqueNames setup) := by
    refine ((List.pairwise_map.1 hnames).and hwrappers).imp ?_
    rintro cls other ⟨hname, hwrapper⟩ name hmem hmem'
    rcases List.mem_cons.1 hmem with rfl | hmem
    · rcases List.mem_cons.1 hmem' with heq | hmem'
      · exact hname (UniqueName.derivedType.inj heq)
      · obtain ⟨g, -, heq⟩ := List.mem_map.1 hmem'
        cases heq
    · obtain ⟨f, hf, rfl⟩ := List.mem_map.1 hmem
      rcases List.mem_cons.1 hmem' with heq | hmem'
      · cases heq
      · obtain ⟨g, hg, heq⟩ := List.mem_map.1 hmem'
        obtain ⟨hf, hplain⟩ := List.mem_filter.1 hf
        obtain ⟨hg, hplain'⟩ := List.mem_filter.1 hg
        exact hwrapper f hf g hg (by simpa using hplain) (by simpa using hplain')
          (UniqueName.wrapper.inj heq).symm
  intro position position' cls cls' hcls hcls' hne name hmem hmem'
  obtain ⟨hposition, rfl⟩ := List.getElem?_eq_some_iff.1 hcls
  obtain ⟨hposition', rfl⟩ := List.getElem?_eq_some_iff.1 hcls'
  rcases Nat.lt_or_gt_of_ne hne with hlt | hlt
  · exact List.pairwise_iff_getElem.1 hdisjoint _ _ hposition hposition' hlt hmem hmem'
  · exact List.pairwise_iff_getElem.1 hdisjoint _ _ hposition' hposition hlt hmem' hmem

/-- **Open classes do not show in each other.** Take classes with different public names, whose
members have types that can be read and no two of which have members that are not overloaded and
share the name of a wrapper, and two orders of the steps that open them, generate their members and
close them. Step by step each class adds the same blocks to the streams in both: its one derived
type, and for each member the same wrapper, interface, routine and entry. The streams consist of
these blocks, so that they differ in the order of the steps only. -/
theorem interleavings_agree (hnames : (classes.map Class.publicName).Nodup)
    (hreadable : ∀ cls ∈ classes, cls.IsReadable)
    (hwrappers : classes.Pairwise fun cls other => ∀ f ∈ cls.members, ∀ g ∈ other.members,
      f.isOverloaded = false → g.isOverloaded = false →
        wrapperName setup f (some cls) ≠ wrapperName setup g (some other))
    {schedule schedule' : List Nat} (h : IsSchedule classes schedule)
    (h' : IsSchedule classes schedule') :
    let first := Interleaving.run setup classes schedule
    let second := Interleaving.run setup classes schedule'
    first.lanes = second.lanes ∧ first.lanes.map Lane.cls = classes ∧
    (∀ lane ∈ first.lanes, lane.added.length = lane.cls.members.length + 2 ∧
      ∃ o data, o.cls = lane.cls ∧ o.name = lane.cls.publicName ∧
        lane.added.flatMap (· .types) = derivedTypes setup o data) ∧
    first.IsWoven ∧ second.IsWoven ∧ first.log.Perm second.log := by
  intro first second
  have hapart := areApart_of_names hnames hwrappers
  have hlanes {schedule : List Nat} (hs : IsSchedule classes schedule) :
      (Interleaving.run setup classes schedule).lanes =
        classes.map fun cls => (cls.alone setup (cls.members.length + 2)).1 := by
    refine List.ext_getElem? fun position => ?_
    rw [(isAt_run hreadable hapart schedule).lanes position, hs position, List.getElem?_map]
    cases classes[position]? <;> rfl
  have hsame : first.lanes = second.lanes := (hlanes h).trans (hlanes h').symm
  have hfirst : first.IsWoven := isWoven_run hreadable hapart schedule
  have hsecond : second.IsWoven := isWoven_run hreadable hapart schedule'
  refine ⟨hsame, ?_, fun lane hlane => ?_, hfirst, hsecond,
    hfirst.log.trans (hsame ▸ hsecond.log.symm)⟩
  · refine (congrArg (List.map Lane.cls) (hlanes h)).trans ?_
    rw [List.map_map]
    exact (List.map_congr_left fun cls _ => Class.cls_alone setup cls _).trans (List.map_id _)
  · rw [hlanes h] at hlane
    obtain ⟨cls, -, rfl⟩ := List.mem_map.1 hlane
    rw [Class.cls_alone, Class.length_added_alone]
    exact ⟨rfl, Class.exists_types_alone setup cls⟩

/-- A class with a method and a destructor. -/
def door : Class where
  name := "house::Door"
  members := [
    { name := "open", kind := .method false,
      parameters := [{ name := "self", type := .builtin .int }] },
    { name := "~Door", kind := .destructor }]

/-- A class with an overloaded method, whose derived type has another name. -/
def bell : Class where
  name := "Bell"
  rename := some "Chime"
  members := [{ name := "ring", kind := .method true, overload := some "__SWIG_0" }]

/-- A library with the two classes, without a single typemap. -/
def house : Setup where
  sources := ⟨{ name := "house", items := [.cls door, .cls bell] }, fun _ _ => none⟩
  config := {}

/-- The classes are generated one after the other, and step by step in turns. -/
theorem interleavings_agree_of_house :
    let first := Interleaving.run house [door, bell] [0, 0, 0, 0, 1, 1, 1]
    let second := Interleaving.run house [door, bell] [1, 0, 1, 0, 0, 1, 0]
    first.lanes = second.lanes ∧
    first.state.bindings.map Binding.wrapper =
      ["swigc_Door_open", "swigc_delete_Door", "swigc_Chime_ring__SWIG_0"] ∧
    second.state.bindings.map Binding.wrapper =
      ["swigc_Chime_ring__SWIG_0", "swigc_Door_open", "swigc_delete_Door"] := by
  intro first second
  have hreadable : ∀ cls ∈ [door, bell], cls.IsReadable := by
    have hint : (CxxType.builtin .int).IsSpelled := CxxType.isSpelled_iff.2 trivial
    have hdoor : door.IsReadable := by
      have hplain : CxxType.ofSpelling door.name = .ok (.named door.name) := by decide +kernel
      refine ⟨hplain, fun member hmember => ?_⟩
      rcases List.mem_cons.1 hmember with rfl | hmember
      · exact ⟨by simpa using hint, CxxType.isSpelled_void⟩
      · obtain rfl := List.mem_singleton.1 hmember
        exact ⟨by simp, CxxType.isSpelled_void⟩
    have hbell : bell.IsReadable := by
      have hplain : CxxType.ofSpelling bell.name = .ok (.named bell.name) := by decide +kernel
      refine ⟨hplain, fun member hmember => ?_⟩
      obtain rfl := List.mem_singleton.1 hmember
      exact ⟨by simp, CxxType.isSpelled_void⟩
    simp [hdoor, hbell]
  have hwrappers : [door, bell].Pairwise fun cls other => ∀ f ∈ cls.members, ∀ g ∈ other.members,
      f.isOverloaded = false → g.isOverloaded = false →
        wrapperName house f (some cls) ≠ wrapperName house g (some other) := by
    decide
  have hfirst : IsSchedule [door, bell] [0, 0, 0, 0, 1, 1, 1] := by
    rintro (_ | _ | position)
    · rfl
    · rfl
    · simp
  have hsecond : IsSchedule [door, bell] [1, 0, 1, 0, 0, 1, 0] := by
    rintro (_ | _ | position)
    · rfl
    · rfl
    · simp
  have hnames : ([door, bell].map Class.publicName).Nodup := by decide
  exact ⟨(interleavings_agree hnames hreadable hwrappers hfirst hsecond).1, by decide +kernel,
    by decide +kernel⟩

/-! ## Types that are written alike -/

/-- A class whose member takes a parameter of a type that no spelling names. This type is written
like a pointer to the class `Host`. -/
def guest : Class where
  name := "Guest"
  members := [{
    name := "greet"
    kind := .method false
    parameters := [{ name := "host", type := .named "Host *" }] }]

/-- A class whose name is read as a name, but as a constant one. A pointer to it is written like a
pointer to a constant `Host`. -/
def landlord : Class where
  name := "const Host"
  rename := some "Landlord"
  members := [{ name := "rent", kind := .method false }]

def host (isConst : Bool) : Class where
  name := "Host"
  members := [{ name := "dine", kind := .method isConst }]

/-- A library with two classes, with the built-in table. -/
def inn (classes : List Class) : Setup where
  sources := .builtin { name := "inn", items := classes.map .cls }
  config := {}

/-- The routines that were added for the members of each class, with the types that they declare
`self` with. -/
def passedObjects (run : Interleaving) : List (List (String × List String)) :=
  run.lanes.map fun lane => (lane.added.flatMap (· .routines)).map fun routine =>
    (routine.name, (routine.declarations.filter (·.2 = "self")).map (·.1))

/-- What is found for a type is kept for all types that are written alike. -/
theorem passedObjects_inn :
    (Interleaving.run (inn [guest, host false]) [guest, host false]
        [0, 0, 0, 1, 1, 1]).passedObjects =
      [[("swigf_Guest_greet", ["class(Guest), intent(in)"])],
        [("swigf_Host_dine", ["class(SWIGTYPE_Host), intent(in)"])]] ∧
    (Interleaving.run (inn [guest, host false]) [guest, host false]
        [1, 1, 1, 0, 0, 0]).passedObjects =
      [[("swigf_Guest_greet", ["class(Guest), intent(in)"])],
        [("swigf_Host_dine", ["class(Host), intent(in)"])]] := by
  simp only [inn, Sources.builtin_eq]
  decide +kernel

/-- The same is so for a class whose name is read with `const`. -/
theorem passedObjects_inn_landlord :
    (Interleaving.run (inn [landlord, host true]) [landlord, host true]
        [0, 0, 0, 1, 1, 1]).passedObjects =
      [[("swigf_Landlord_rent", ["class(Landlord), intent(in)"])],
        [("swigf_Host_dine", ["class(Landlord), intent(in)"])]] ∧
    (Interleaving.run (inn [landlord, host true]) [landlord, host true]
        [1, 1, 1, 0, 0, 0]).passedObjects =
      [[("swigf_Landlord_rent", ["class(Host), intent(in)"])],
        [("swigf_Host_dine", ["class(Host), intent(in)"])]] := by
  simp only [inn, Sources.builtin_eq]
  decide +kernel

/-- Two orders of the steps of two classes with one member each. -/
theorem isSchedule_of_pair {cls other : Class} (h : cls.members.length = 1)
    (h' : other.members.length = 1) : IsSchedule [cls, other] [0, 0, 0, 1, 1, 1] ∧
      IsSchedule [cls, other] [1, 1, 1, 0, 0, 0] := by
  constructor <;>
    rintro (_ | _ | position)
  · simp [h]
  · simp [h']
  · simp
  · simp [h]
  · simp [h']
  · simp

/-- **Open classes may show in each other** if members have types that no spelling names: a routine
is then made for another class in one order of the steps only. The same happens if the name of a
class is read with `const`. -/
theorem not_interleavings_agree :
    (¬∀ (setup : Setup) (classes : List Class) (schedule schedule' : List Nat),
      (∀ cls ∈ classes, .cls cls ∈ setup.sources.decls.items) →
      (classes.map Class.publicName).Nodup → (∀ cls ∈ classes, cls.HasPlainName) →
      (classes.Pairwise fun cls other => ∀ f ∈ cls.members, ∀ g ∈ other.members,
        f.isOverloaded = false → g.isOverloaded = false →
          wrapperName setup f (some cls) ≠ wrapperName setup g (some other)) →
      IsSchedule classes schedule → IsSchedule classes schedule' →
      (Interleaving.run setup classes schedule).lanes =
        (Interleaving.run setup classes schedule').lanes) ∧
    CxxType.ofSpelling landlord.name = .ok (.base true (.named "Host")) ∧
    (Interleaving.run (inn [landlord, host true]) [landlord, host true] [0, 0, 0, 1, 1, 1]).lanes ≠
      (Interleaving.run (inn [landlord, host true]) [landlord, host true]
        [1, 1, 1, 0, 0, 0]).lanes := by
  refine ⟨fun h => ?_, by decide +kernel, fun hlanes => ?_⟩
  · have hplain : ∀ cls ∈ [guest, host false], cls.HasPlainName := by
      have hguest : CxxType.ofSpelling guest.name = .ok (.named guest.name) := by decide +kernel
      have hhost : CxxType.ofSpelling (host false).name = .ok (.named (host false).name) := by
        decide +kernel
      exact List.forall_mem_cons.2 ⟨hguest, List.forall_mem_singleton.2 hhost⟩
    obtain ⟨hfirst, hsecond⟩ : IsSchedule [guest, host false] [0, 0, 0, 1, 1, 1] ∧
      IsSchedule [guest, host false] [1, 1, 1, 0, 0, 0] := isSchedule_of_pair rfl rfl
    have hlanes := h (inn [guest, host false]) [guest, host false] _ _
      (fun cls hcls => List.mem_map_of_mem hcls) (by decide) hplain (by decide) hfirst hsecond
    obtain ⟨hguestFirst, hhostFirst⟩ := passedObjects_inn
    rw [passedObjects, hlanes, ← passedObjects, hhostFirst] at hguestFirst
    exact absurd hguestFirst (by decide)
  · obtain ⟨hlandlordFirst, hhostFirst⟩ := passedObjects_inn_landlord
    rw [passedObjects, hlanes, ← passedObjects, hhostFirst] at hlandlordFirst
    exact absurd hlandlordFirst (by decide)

end Interleaving

end FortranBindings
