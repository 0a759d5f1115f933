import Mathlib.Data.List.Induction
import FortranBindings.Proofs.Generator.Outcome

/-!
# The ledger of a module

Which declarations a module is generated from is decided by their names alone. The ledger lists the
declarations that generation gets to, in order, each with a verdict: it is accepted unless its name
was given away before. It is defined without running the generator.

`Ledger.find?_accepted` is the reason why it does not matter whether names are compared with all
declarations before or with the accepted ones: the first declaration of a name is accepted.
-/

namespace FortranBindings

/-- A declaration that generation gets to. -/
inductive Entry
  | cls (cls : Class)
  | callable (callable : Callable) (owner : Option Class)
  deriving DecidableEq

namespace Entry

/-- The place of the declaration. -/
def location : Entry → Location
  | cls c => c.location
  | callable f _ => f.location

/-- The name that no other declaration may have, if there is one. -/
def name? (setup : Setup) : Entry → Option UniqueName
  | cls c => some (.derivedType c.publicName)
  | callable f owner =>
    if f.isOverloaded then none else some (.wrapper (Generate.wrapperName setup f owner))

/-- The class that is declared. -/
def class? : Entry → Option Class
  | cls c => some c
  | callable .. => none

theorem class?_eq_some {entry : Entry} {c : Class} : entry.class? = some c ↔ entry = cls c := by
  cases entry <;> simp [class?]

/-- The function that is declared outside of classes. -/
def function? : Entry → Option Callable
  | callable f none => some f
  | _ => none

/-- The callable that is declared, with the class that it is a member of. -/
def callable? : Entry → Option (Callable × Option Class)
  | cls _ => none
  | callable f owner => some (f, owner)

theorem callable?_eq_some {entry : Entry} {pair : Callable × Option Class} :
    entry.callable? = some pair ↔ entry = callable pair.1 pair.2 := by
  cases entry <;> simp [callable?, Prod.ext_iff]

variable {setup : Setup} {entry : Entry} {name : String}

theorem name?_cls (c : Class) : (cls c).name? setup = some (.derivedType c.publicName) :=
  rfl

theorem name?_of_overloaded {f : Callable} (h : f.isOverloaded = true) (owner : Option Class) :
    (callable f owner).name? setup = none := by
  rw [name?, h]
  rfl

theorem name?_of_plain {f : Callable} (h : f.isOverloaded = false) (owner : Option Class) :
    (callable f owner).name? setup = some (.wrapper (Generate.wrapperName setup f owner)) := by
  rw [name?, h]
  rfl

theorem name?_eq_derivedType :
    entry.name? setup = some (.derivedType name) ↔ ∃ c, entry = cls c ∧ c.publicName = name := by
  cases entry with
  | cls c => simp [name?]
  | callable f owner => simp [name?]

theorem name?_eq_wrapper : entry.name? setup = some (.wrapper name) ↔ ∃ f owner,
    entry = callable f owner ∧ f.isOverloaded = false ∧
      Generate.wrapperName setup f owner = name := by
  cases entry with
  | cls c => simp [name?]
  | callable f owner => simp [name?]

/-- The entries with those of one more item. The members of a class are left out if a class of its
public name came before. -/
def reach (entries : List Entry) : Item → List Entry
  | .function f => entries ++ [callable f none]
  | .cls c =>
    entries ++ cls c ::
      if c.publicName ∈ (entries.filterMap class?).map Class.publicName then []
      else c.members.map (callable · (some c))
  | .enumeration _ => entries

end Entry

/-- The declarations that generation gets to, in order. -/
def Declarations.entries (decls : Declarations) : List Entry :=
  decls.items.foldl Entry.reach []

namespace Declarations

section

variable {α : Type} {ofEntry : Entry → Option α} {ofItem : Item → Option α}

theorem filterMap_reach (hfunction : ∀ f, ofItem (.function f) = ofEntry (.callable f none))
    (hcls : ∀ c, ofItem (.cls c) = ofEntry (.cls c)) (henum : ∀ e, ofItem (.enumeration e) = none)
    (hmember : ∀ f c, ofEntry (.callable f (some c)) = none) (entries : List Entry) (item : Item) :
    (Entry.reach entries item).filterMap ofEntry =
      entries.filterMap ofEntry ++ (ofItem item).toList := by
  have hone : ∀ entry rest, rest.filterMap ofEntry = [] →
      (entry :: rest).filterMap ofEntry = (ofEntry entry).toList := fun entry rest hrest => by
    rw [List.filterMap_cons, hrest]
    cases ofEntry entry <;> rfl
  cases item with
  | function f => rw [Entry.reach, List.filterMap_append, hfunction, hone _ _ rfl]
  | cls c =>
    rw [Entry.reach, List.filterMap_append, hcls, hone]
    split
    · rfl
    · rw [List.filterMap_map, List.filterMap_eq_nil_iff]
      exact fun f _ => hmember f c
  | enumeration e =>
    rw [Entry.reach, henum]
    exact (List.append_nil _).symm

/-- What is declared outside of classes is gone through once, in order. -/
theorem filterMap_foldl_reach
    (hfunction : ∀ f, ofItem (.function f) = ofEntry (.callable f none))
    (hcls : ∀ c, ofItem (.cls c) = ofEntry (.cls c)) (henum : ∀ e, ofItem (.enumeration e) = none)
    (hmember : ∀ f c, ofEntry (.callable f (some c)) = none) (entries : List Entry)
    (items : List Item) : (items.foldl Entry.reach entries).filterMap ofEntry =
      entries.filterMap ofEntry ++ items.filterMap ofItem := by
  induction items generalizing entries with
  | nil => exact (List.append_nil _).symm
  | cons item items ih =>
    rw [List.foldl_cons, ih, filterMap_reach hfunction hcls henum hmember, List.append_assoc,
      List.filterMap_cons]
    cases ofItem item <;> rfl

end

theorem filterMap_class?_entries (decls : Declarations) :
    decls.entries.filterMap Entry.class? = decls.classes :=
  filterMap_foldl_reach (fun _ => rfl) (fun _ => rfl) (fun _ => rfl) (fun _ _ => rfl) [] _

theorem filterMap_function?_entries (decls : Declarations) :
    decls.entries.filterMap Entry.function? = decls.functions :=
  filterMap_foldl_reach (fun _ => rfl) (fun _ => rfl) (fun _ => rfl) (fun _ _ => rfl) [] _

end Declarations

/-- The verdict about a declaration. -/
structure Verdict where
  entry : Entry
  /-- The place where the name of the declaration was given away before. -/
  previous? : Option Location
  deriving DecidableEq

namespace Verdict

/-- Is the declaration a part of the module? -/
def isAccepted (verdict : Verdict) : Bool := verdict.previous?.isNone

/-- The report about a declaration that is left out. -/
def report? (setup : Setup) (verdict : Verdict) : Option Diagnostic := do
  let name ← verdict.entry.name? setup
  let previous ← verdict.previous?
  return name.report verdict.entry.location previous

/-- The verdict is the one that is due behind other verdicts. -/
structure IsDue (setup : Setup) (before : List Verdict) (verdict : Verdict) : Prop where
  /-- A class is left out if there was one of its public name. -/
  cls : ∀ c, verdict.entry = .cls c → (verdict.isAccepted = false ↔
    ∃ other ∈ before, ∃ c', other.entry = .cls c' ∧ c'.publicName = c.publicName)
  /-- A callable is left out if neither it nor an accepted one of its wrapper name is
  overloaded. -/
  callable : ∀ f owner, verdict.entry = .callable f owner → (verdict.isAccepted = false ↔
    f.isOverloaded = false ∧ ∃ other ∈ before, other.isAccepted = true ∧
      ∃ f' owner', other.entry = .callable f' owner' ∧ f'.isOverloaded = false ∧
        Generate.wrapperName setup f' owner' = Generate.wrapperName setup f owner)
  /-- The place is the one of the first accepted declaration of the name. -/
  previous : ∀ place, verdict.previous? = some place → ∃ other,
    (before.filter isAccepted).find? (·.entry.name? setup = verdict.entry.name? setup) =
      some other ∧ other.entry.location = place

end Verdict

namespace Ledger

variable {setup : Setup} {entries before rest : List Entry} {entry : Entry} {name : UniqueName}

/-- The place of the first declaration of a name. -/
def place? (setup : Setup) (entries : List Entry) (name : UniqueName) : Option Location :=
  (entries.find? (·.name? setup = some name)).map Entry.location

/-- The verdict about a declaration, given those before it. -/
def judge (setup : Setup) (before : List Entry) (entry : Entry) : Verdict where
  entry
  previous? := (entry.name? setup).bind (place? setup before)

/-- The verdicts about declarations that come behind others. -/
def verdictsFrom (setup : Setup) : List Entry → List Entry → List Verdict
  | _, [] => []
  | before, entry :: rest =>
    judge setup before entry :: verdictsFrom setup (before ++ [entry]) rest

/-- The verdicts about declarations, in order. -/
def verdicts (setup : Setup) (entries : List Entry) : List Verdict :=
  verdictsFrom setup [] entries

/-- The declarations that are part of the module. -/
def accepted (setup : Setup) (entries : List Entry) : List Entry :=
  ((verdicts setup entries).filter Verdict.isAccepted).map Verdict.entry

/-- The callables that are part of the module, each with its class. -/
def callables (setup : Setup) (entries : List Entry) : List (Callable × Option Class) :=
  (accepted setup entries).filterMap Entry.callable?

/-- The reports about the declarations that are left out. -/
def reports (setup : Setup) (entries : List Entry) : List Diagnostic :=
  (verdicts setup entries).filterMap (Verdict.report? setup)

/-- The classes that are part of the module. -/
def classes (setup : Setup) (entries : List Entry) : List Class :=
  (accepted setup entries).filterMap Entry.class?

/-! ## One declaration more -/

theorem verdictsFrom_append : verdictsFrom setup before (entries ++ rest) =
    verdictsFrom setup before entries ++ verdictsFrom setup (before ++ entries) rest := by
  induction entries generalizing before with
  | nil => rw [List.append_nil]; rfl
  | cons entry entries ih =>
    rw [List.cons_append, verdictsFrom, ih, List.append_assoc]
    rfl

theorem verdicts_concat (setup : Setup) (entries : List Entry) (entry : Entry) :
    verdicts setup (entries ++ [entry]) = verdicts setup entries ++ [judge setup entries entry] :=
  verdictsFrom_append

theorem map_entry_verdictsFrom (setup : Setup) (before entries : List Entry) :
    (verdictsFrom setup before entries).map Verdict.entry = entries := by
  induction entries generalizing before with
  | nil => rfl
  | cons entry entries ih => rw [verdictsFrom, List.map_cons, ih, judge]

/-- There is one verdict about each declaration. -/
theorem map_entry_verdicts (setup : Setup) (entries : List Entry) :
    (verdicts setup entries).map Verdict.entry = entries :=
  map_entry_verdictsFrom setup [] entries

theorem accepted_concat (setup : Setup) (entries : List Entry) (entry : Entry) :
    accepted setup (entries ++ [entry]) = accepted setup entries ++
      if (judge setup entries entry).isAccepted then [entry] else [] := by
  rw [accepted, verdicts_concat, List.filter_append, List.filter_singleton, List.map_append]
  cases (judge setup entries entry).isAccepted <;> rfl

theorem reports_concat (setup : Setup) (entries : List Entry) (entry : Entry) :
    reports setup (entries ++ [entry]) = reports setup entries ++
      ((judge setup entries entry).report? setup).toList := by
  rw [reports, verdicts_concat, List.filterMap_append, List.filterMap_cons]
  cases (judge setup entries entry).report? setup <;> rfl

theorem place?_concat (setup : Setup) (entries : List Entry) (entry : Entry) (name : UniqueName) :
    place? setup (entries ++ [entry]) name = (place? setup entries name).or
      (if entry.name? setup = some name then some entry.location else none) := by
  rw [place?, List.find?_append, Option.map_or, List.find?_singleton]
  by_cases h : entry.name? setup = some name <;> simp [h, place?]

theorem place?_derivedType_eq_none {name : String} :
    place? setup entries (.derivedType name) = none ↔
      name ∉ (entries.filterMap Entry.class?).map Class.publicName := by
  rw [place?, Option.map_eq_none_iff, List.find?_eq_none]
  simp only [decide_eq_true_eq, Entry.name?_eq_derivedType, List.mem_map, List.mem_filterMap,
    Entry.class?_eq_some]
  grind

/-- A declaration whose name was not given away is accepted. -/
theorem judge_of_free (h : ∀ name, entry.name? setup = some name →
    place? setup entries name = none) : judge setup entries entry = ⟨entry, none⟩ := by
  rw [judge]
  cases hname : entry.name? setup with
  | none => rfl
  | some name => exact congrArg _ (h name hname)

/-- A declaration whose name was given away is left out. -/
theorem judge_of_taken {previous : Location} (hname : entry.name? setup = some name)
    (htaken : place? setup entries name = some previous) :
    judge setup entries entry = ⟨entry, some previous⟩ := by
  rw [judge, hname]
  exact congrArg _ htaken

section

variable (h : judge setup entries entry = ⟨entry, none⟩)
include h

theorem accepted_concat_of_free :
    accepted setup (entries ++ [entry]) = accepted setup entries ++ [entry] := by
  rw [accepted_concat, h]
  rfl

theorem callables_concat_of_free : callables setup (entries ++ [entry]) =
    callables setup entries ++ entry.callable?.toList := by
  rw [callables, accepted_concat_of_free h, List.filterMap_append, List.filterMap_cons]
  cases entry.callable? <;> rfl

theorem classes_concat_of_free : classes setup (entries ++ [entry]) =
    classes setup entries ++ entry.class?.toList := by
  rw [classes, accepted_concat_of_free h, List.filterMap_append, List.filterMap_cons]
  cases entry.class? <;> rfl

theorem reports_concat_of_free : reports setup (entries ++ [entry]) = reports setup entries := by
  rw [reports_concat, h, Verdict.report?]
  cases entry.name? setup <;> exact List.append_nil _

end

section

variable {previous : Location} (h : judge setup entries entry = ⟨entry, some previous⟩)
include h

theorem accepted_concat_of_taken :
    accepted setup (entries ++ [entry]) = accepted setup entries := by
  rw [accepted_concat, h]
  exact List.append_nil _

theorem callables_concat_of_taken :
    callables setup (entries ++ [entry]) = callables setup entries := by
  rw [callables, accepted_concat_of_taken h, callables]

theorem classes_concat_of_taken :
    classes setup (entries ++ [entry]) = classes setup entries := by
  rw [classes, accepted_concat_of_taken h, classes]

theorem reports_concat_of_taken (hname : entry.name? setup = some name) :
    reports setup (entries ++ [entry]) =
      reports setup entries ++ [name.report entry.location previous] := by
  rw [reports_concat, h, Verdict.report?, hname]
  rfl

end

/-! ## The first declaration of a name -/

/-- **The first declaration of a name is accepted.** So the accepted declarations have the first
declaration of each name among them, and no other one. -/
theorem find?_accepted (setup : Setup) (entries : List Entry) (name : UniqueName) :
    (accepted setup entries).find? (·.name? setup = some name) =
      entries.find? (·.name? setup = some name) := by
  induction entries using List.reverseRecOn with
  | nil => rfl
  | append_singleton entries entry ih =>
    rw [accepted_concat, List.find?_append, List.find?_append, ih]
    cases hfind : entries.find? (·.name? setup = some name) with
    | some first => rfl
    | none =>
      have hfree : place? setup entries name = none := congrArg (Option.map _) hfind
      split
      · rfl
      · next hrejected =>
        have hname : entry.name? setup ≠ some name := fun hname => by
          refine hrejected (congrArg Verdict.isAccepted (judge_of_free fun other hother => ?_))
          rwa [← Option.some.inj (hname.symm.trans hother)]
        rw [List.find?_singleton, if_neg (by simpa using hname)]
        rfl

theorem nodup_names_accepted (setup : Setup) (entries : List Entry) :
    ((accepted setup entries).filterMap (Entry.name? setup)).Nodup := by
  induction entries using List.reverseRecOn with
  | nil => exact List.nodup_nil
  | append_singleton entries entry ih =>
    rw [accepted_concat, List.filterMap_append]
    split
    · next haccepted =>
      cases hname : entry.name? setup with
      | none =>
        rw [List.filterMap_cons_none hname, List.filterMap_nil, List.append_nil]
        exact ih
      | some name =>
        have hfree : place? setup entries name = none := by
          rwa [Verdict.isAccepted, judge, hname, Option.isNone_iff_eq_none] at haccepted
        rw [place?, Option.map_eq_none_iff, ← find?_accepted, List.find?_eq_none] at hfree
        rw [List.filterMap_cons_some hname, List.filterMap_nil]
        refine List.concat_eq_append ▸ ih.concat fun hmem => ?_
        obtain ⟨other, hother, hsame⟩ := List.mem_filterMap.1 hmem
        exact hfree other hother (decide_eq_true hsame)
    · rw [List.filterMap_nil, List.append_nil]
      exact ih

/-- No two accepted callables have the same wrapper name, unless one of them is overloaded. -/
theorem pairwise_callables (setup : Setup) (entries : List Entry) :
    (callables setup entries).Pairwise fun a b =>
      a.1.isOverloaded = false → b.1.isOverloaded = false →
        Generate.wrapperName setup a.1 a.2 ≠ Generate.wrapperName setup b.1 b.2 := by
  have hnames := nodup_names_accepted setup entries
  rw [List.Nodup, List.pairwise_filterMap] at hnames
  rw [callables, List.pairwise_filterMap]
  refine hnames.imp fun hne a ha b hb hplain hplain' heq => ?_
  obtain rfl := Entry.callable?_eq_some.1 ha
  obtain rfl := Entry.callable?_eq_some.1 hb
  exact hne _ (Entry.name?_of_plain hplain a.2) _ (Entry.name?_of_plain hplain' b.2) (by rw [heq])

/-- No two accepted classes have the same public name. -/
theorem nodup_publicNames_classes (setup : Setup) (entries : List Entry) :
    ((classes setup entries).map Class.publicName).Nodup := by
  have hnames := nodup_names_accepted setup entries
  rw [List.Nodup, List.pairwise_filterMap] at hnames
  rw [List.Nodup, List.pairwise_map, classes, List.pairwise_filterMap]
  refine hnames.imp fun hne a ha b hb heq => ?_
  obtain rfl := Entry.class?_eq_some.1 ha
  obtain rfl := Entry.class?_eq_some.1 hb
  exact hne _ (Entry.name?_cls a) _ (Entry.name?_cls b) (by rw [heq])

/-- An accepted class has the public name of a class: the class itself, or the first one of that
name. -/
theorem mem_publicNames_classes {cls : Class} (h : cls ∈ entries.filterMap Entry.class?) :
    cls.publicName ∈ (classes setup entries).map Class.publicName := by
  obtain ⟨entry, hentry, hclass⟩ := List.mem_filterMap.1 h
  obtain rfl := Entry.class?_eq_some.1 hclass
  have hsome : (entries.find? (·.name? setup = some (.derivedType cls.publicName))).isSome :=
    List.find?_isSome.2 ⟨.cls cls, hentry, decide_eq_true (Entry.name?_cls cls)⟩
  rw [← find?_accepted] at hsome
  obtain ⟨first, hfirst⟩ := Option.isSome_iff_exists.1 hsome
  have hname : first.name? setup = some (.derivedType cls.publicName) := by
    simpa using List.find?_some hfirst
  obtain ⟨c, rfl, hc⟩ := Entry.name?_eq_derivedType.1 hname
  have haccepted : c ∈ classes setup entries :=
    List.mem_filterMap.2 ⟨.cls c, List.mem_of_find?_eq_some hfirst, rfl⟩
  exact List.mem_map.2 ⟨c, haccepted, hc⟩

/-! ## Verdicts -/

theorem exists_mem_verdicts {p : Entry → Prop} :
    (∃ verdict ∈ verdicts setup entries, p verdict.entry) ↔ ∃ other ∈ entries, p other := by
  conv_rhs => rw [← map_entry_verdicts setup entries]
  simp

theorem exists_mem_accepted {p : Entry → Prop} : (∃ other ∈ accepted setup entries, p other) ↔
    ∃ verdict ∈ verdicts setup entries, verdict.isAccepted = true ∧ p verdict.entry := by
  simp [accepted, and_assoc]

theorem isAccepted_judge_eq_false : (judge setup entries entry).isAccepted = false ↔
    ∃ name, entry.name? setup = some name ∧ ∃ other ∈ entries, other.name? setup = some name := by
  rw [Verdict.isAccepted, judge, Option.isNone_eq_false_iff, Option.isSome_bind]
  simp [place?, Option.any_eq_true]

/-- A declaration is left out if and only if an accepted one has its name. -/
theorem isAccepted_judge_eq_false_iff_accepted : (judge setup entries entry).isAccepted = false ↔
    ∃ name, entry.name? setup = some name ∧
      ∃ other ∈ accepted setup entries, other.name? setup = some name := by
  have hfind : ∀ name, (∃ other ∈ accepted setup entries, other.name? setup = some name) ↔
      ∃ other ∈ entries, other.name? setup = some name := fun name => by
    have hsome := congrArg (fun found => found.isSome = true) (find?_accepted setup entries name)
    simpa using hsome
  simp only [isAccepted_judge_eq_false, hfind]

/-- The verdict that is given about a declaration is due. -/
theorem isDue_judge (setup : Setup) (entries : List Entry) (entry : Entry) :
    (judge setup entries entry).IsDue setup (verdicts setup entries) := by
  refine ⟨fun c hentry => ?_, fun f owner hentry => ?_, fun place hplace => ?_⟩
  · obtain rfl : entry = .cls c := hentry
    simp only [isAccepted_judge_eq_false, Entry.name?_cls, Option.some.injEq, exists_eq_left',
      Entry.name?_eq_derivedType]
    exact (exists_mem_verdicts (p := fun other =>
      ∃ c', other = .cls c' ∧ c'.publicName = c.publicName)).symm
  · obtain rfl : entry = .callable f owner := hentry
    rw [isAccepted_judge_eq_false_iff_accepted]
    cases hoverloaded : f.isOverloaded with
    | true => simp [Entry.name?_of_overloaded hoverloaded]
    | false =>
      simp only [Entry.name?_of_plain hoverloaded, Option.some.injEq, exists_eq_left',
        Entry.name?_eq_wrapper, true_and]
      exact exists_mem_accepted (p := fun other => ∃ f' owner', other = .callable f' owner' ∧
        f'.isOverloaded = false ∧
          Generate.wrapperName setup f' owner' = Generate.wrapperName setup f owner)
  · obtain ⟨name, hname, hfirst⟩ := Option.bind_eq_some_iff.1 hplace
    obtain ⟨other, hother, rfl⟩ := Option.map_eq_some_iff.1 hfirst
    rw [← find?_accepted, accepted, List.find?_map, Option.map_eq_some_iff] at hother
    obtain ⟨verdict, hverdict, rfl⟩ := hother
    refine ⟨verdict, ?_, rfl⟩
    rw [show (judge setup entries entry).entry.name? setup = some name from hname]
    exact hverdict

theorem isDue_of_verdictsFrom {past after : List Verdict} {verdict : Verdict}
    (h : verdictsFrom setup before entries = past ++ verdict :: after) :
    verdict.IsDue setup (verdicts setup before ++ past) := by
  induction entries generalizing before past with
  | nil => cases past <;> cases h
  | cons entry entries ih =>
    rw [verdictsFrom] at h
    cases past with
    | nil =>
      obtain ⟨rfl, -⟩ := List.cons.inj h
      rw [List.append_nil]
      exact isDue_judge setup before entry
    | cons first past =>
      obtain ⟨rfl, hrest⟩ := List.cons.inj h
      rw [← List.singleton_append, ← List.append_assoc, ← verdicts_concat]
      exact ih hrest

/-- The members of a class are gone through if and only if it is accepted. -/
theorem reach_cls (setup : Setup) (entries : List Entry) (c : Class) :
    Entry.reach entries (.cls c) = entries ++ .cls c ::
      if (judge setup entries (.cls c)).isAccepted then c.members.map (.callable · (some c))
      else [] := by
  have hplace : (judge setup entries (.cls c)).isAccepted =
      (place? setup entries (.derivedType c.publicName)).isNone := rfl
  rw [Entry.reach, hplace]
  by_cases hknown : c.publicName ∈ (entries.filterMap Entry.class?).map Class.publicName
  · have htaken : place? setup entries (.derivedType c.publicName) ≠ none :=
      fun hfree => place?_derivedType_eq_none.1 hfree hknown
    rw [if_pos hknown, if_neg (mt Option.isNone_iff_eq_none.1 htaken)]
  · rw [if_neg hknown, if_pos (Option.isNone_iff_eq_none.2 (place?_derivedType_eq_none.2 hknown))]

theorem exists_judge_of_mem_verdictsFrom {verdict : Verdict}
    (h : verdict ∈ verdictsFrom setup before entries) :
    ∃ past, verdict = judge setup past verdict.entry := by
  induction entries generalizing before with
  | nil => cases h
  | cons entry entries ih =>
    rcases List.mem_cons.1 h with rfl | hrest
    · exact ⟨before, rfl⟩
    · exact ih hrest

/-- Exactly the declarations that are left out are reported. -/
theorem isSome_report?_of_mem_verdicts {verdict : Verdict} (h : verdict ∈ verdicts setup entries) :
    (verdict.report? setup).isSome = !verdict.isAccepted := by
  obtain ⟨past, hjudge⟩ := exists_judge_of_mem_verdictsFrom h
  rw [hjudge, Verdict.report?, Verdict.isAccepted, judge]
  cases hname : verdict.entry.name? setup with
  | none => rfl
  | some name => cases hplace : place? setup past name <;> simp [hplace]

/-- **Each verdict is due** behind the ones before it. -/
theorem isDue_of_verdicts {past after : List Verdict} {verdict : Verdict}
    (h : verdicts setup entries = past ++ verdict :: after) : verdict.IsDue setup past :=
  isDue_of_verdictsFrom h

end Ledger

end FortranBindings
