import Mathlib.Data.List.Chain
import FortranBindings.Proofs.Text.Identifiers
import FortranBindings.Text.Collapse

/-!
# The runs that a name is made of

`Text.AreMaximalRuns` says which runs of letters and digits a text has: in front of each run there
are separators only, and no letter or digit follows it. These are the runs that identifiers are made
of (`Text.areMaximalRuns_iff`). Collapsing the separators leaves them with one underscore between
two of them (`Text.collapsedName_eq_sanitize`) and tells nothing else of the name
(`Text.collapsedName_exact`).
-/

namespace FortranBindings.Text

variable {text rest run front middle back : List Char} {runs : List (List Char)} {c mark : Char}

/-! ## Runs of a text -/

/-- Every character is a separator. -/
def AllSeparate (text : List Char) : Prop := ∀ c ∈ text, isSeparator c = true

theorem allSeparate_nil : AllSeparate [] := List.forall_mem_nil _

theorem allSeparate_cons : AllSeparate (c :: text) ↔ isSeparator c = true ∧ AllSeparate text :=
  List.forall_mem_cons

/-- The maximal runs of letters and digits of a text, in order. -/
inductive AreMaximalRuns : List (List Char) → List Char → Prop
  | nil {text : List Char} (h : AllSeparate text) : AreMaximalRuns [] text
  /-- The first run has only separators in front of it, and it does not go on behind its end. -/
  | cons {lead run rest : List Char} {runs : List (List Char)} (hlead : AllSeparate lead)
    (hrun : IsRun run) (hend : ∀ c ∈ rest.head?, isSeparator c = true)
    (h : AreMaximalRuns runs rest) : AreMaximalRuns (run :: runs) (lead ++ (run ++ rest))

theorem isSeparator_eq_false_iff : isSeparator c = false ↔ c.isAlphanum = true := by
  simp [isSeparator]

theorem isSeparator_eq_true_iff : isSeparator c = true ↔ c.isAlphanum = false := by
  simp [isSeparator]

theorem isRun_cons_iff : IsRun (c :: run) ↔
    c.isAlphanum = true ∧ ∀ d ∈ run, d.isAlphanum = true := by
  simp [IsRun]

theorem AreMaximalRuns.cons_separator (hc : isSeparator c = true) (h : AreMaximalRuns runs text) :
    AreMaximalRuns runs (c :: text) := by
  cases h with
  | nil h => exact .nil (allSeparate_cons.2 ⟨hc, h⟩)
  | cons hlead hrun hend h => exact .cons (allSeparate_cons.2 ⟨hc, hlead⟩) hrun hend h

/-- Every text has maximal runs. -/
theorem exists_areMaximalRuns (text : List Char) : ∃ runs, AreMaximalRuns runs text := by
  induction text with
  | nil => exact ⟨[], .nil allSeparate_nil⟩
  | cons c rest ih =>
    obtain ⟨runs, hruns⟩ := ih
    cases hc : isSeparator c with
    | true => exact ⟨runs, hruns.cons_separator hc⟩
    | false =>
      have hsingle : IsRun [c] :=
        isRun_cons_iff.2 ⟨isSeparator_eq_false_iff.1 hc, List.forall_mem_nil _⟩
      by_cases hend : ∀ d ∈ rest.head?, isSeparator d = true
      · exact ⟨[c] :: runs, .cons allSeparate_nil hsingle hend hruns⟩
      · -- A letter or digit follows, so the character begins the first run of the rest.
        cases hruns with
        | nil h => exact absurd (fun d hd => h d (List.mem_of_mem_head? hd)) hend
        | @cons lead run rest runs hlead hrun hend' hruns =>
          cases lead with
          | nil =>
            have hlonger : IsRun (c :: run) :=
              isRun_cons_iff.2 ⟨isSeparator_eq_false_iff.1 hc, hrun.2⟩
            exact ⟨(c :: run) :: runs, .cons allSeparate_nil hlonger hend' hruns⟩
          | cons d lead =>
            refine absurd (fun e he => ?_) hend
            cases he
            exact hlead d List.mem_cons_self

theorem alphanumericRuns_append_of_allSeparate (h : AllSeparate text) (rest : List Char) :
    alphanumericRuns (text ++ rest) = alphanumericRuns rest := by
  induction text with
  | nil => rfl
  | cons c text ih =>
    obtain ⟨hc, htext⟩ := allSeparate_cons.1 h
    have hcons := alphanumericRuns_append_cons (isSeparator_eq_true_iff.1 hc) [] (text ++ rest)
    rwa [List.nil_append, ih htext] at hcons

theorem alphanumericRuns_append_of_isRun (hrun : IsRun run)
    (hend : ∀ c ∈ rest.head?, isSeparator c = true) :
    alphanumericRuns (run ++ rest) = run :: alphanumericRuns rest := by
  cases rest with
  | nil =>
    rw [List.append_nil, alphanumericRuns_of_isRun hrun]
    rfl
  | cons c rest =>
    have hc : c.isAlphanum = false := isSeparator_eq_true_iff.1 (hend c rfl)
    rw [alphanumericRuns_append_cons hc, alphanumericRuns_of_isRun hrun,
      ← alphanumericRuns_append_of_allSeparate (allSeparate_cons.2 ⟨hend c rfl, allSeparate_nil⟩)]
    rfl

/-- **The runs of a name** are the maximal runs of letters and digits in it. -/
theorem areMaximalRuns_iff : AreMaximalRuns runs text ↔ runs = alphanumericRuns text := by
  have hunique {runs : List (List Char)} {text : List Char} (h : AreMaximalRuns runs text) :
      runs = alphanumericRuns text := by
    induction h with
    | nil h =>
      have hnone := alphanumericRuns_eq_nil_iff.2 fun c hc => isSeparator_eq_true_iff.1 (h c hc)
      exact hnone.symm
    | cons hlead hrun hend _ ih =>
      rw [alphanumericRuns_append_of_allSeparate hlead, alphanumericRuns_append_of_isRun hrun hend,
        ih]
  refine ⟨hunique, fun h => ?_⟩
  obtain ⟨found, hfound⟩ := exists_areMaximalRuns text
  rwa [h, ← hunique hfound]

/-! ## Collapsing separators -/

/-- The underscore for the separators at the start of a text, if there are any. -/
def leadingMark (text : List Char) : List Char :=
  if text.head?.any isSeparator then ['_'] else []

theorem collapse_cons_of_separator (hc : isSeparator c = true) (text : List Char) :
    collapse (c :: text) = '_' :: collapse (text.dropWhile isSeparator) := by
  rw [collapse, if_pos hc]

theorem eq_underscore_of_mem_leadingMark (hc : c ∈ leadingMark text) : c = '_' := by
  unfold leadingMark at hc
  split at hc
  · exact List.mem_singleton.1 hc
  · cases hc

/-- Separators at the start become one underscore. -/
theorem collapse_append_of_allSeparate (h : AllSeparate text) (hrest : leadingMark rest = []) :
    collapse (text ++ rest) = leadingMark (text ++ rest) ++ collapse rest := by
  cases text with
  | nil => rw [List.nil_append, hrest, List.nil_append]
  | cons c text =>
    obtain ⟨hc, htext⟩ := allSeparate_cons.1 h
    have hdrop : rest.dropWhile isSeparator = rest := by
      cases rest with
      | nil => rfl
      | cons d rest =>
        refine List.dropWhile_cons_of_neg fun hd => ?_
        simp [leadingMark, hd] at hrest
    have hmark : leadingMark (c :: (text ++ rest)) = ['_'] := by simp [leadingMark, hc]
    rw [List.cons_append, collapse_cons_of_separator hc, List.dropWhile_append_of_pos htext, hdrop,
      hmark]
    rfl

/-- Letters and digits stay. -/
theorem collapse_append_of_isAlphanum (h : ∀ c ∈ run, c.isAlphanum = true) (rest : List Char) :
    collapse (run ++ rest) = run ++ collapse rest := by
  induction run with
  | nil => rfl
  | cons c run ih =>
    obtain ⟨hc, hrun⟩ := List.forall_mem_cons.1 h
    rw [List.cons_append, collapse, if_neg (by simp [isSeparator, hc]), ih hrun, List.cons_append]

/-- **Collapsing** leaves the runs with one underscore between two of them, one in front of them if
the text begins with a separator, and perhaps one behind them. -/
theorem AreMaximalRuns.collapse_eq (h : AreMaximalRuns runs text) :
    ∃ back, (∀ c ∈ back, c = '_') ∧
      collapse text = leadingMark text ++ (['_'].intercalate runs ++ back) := by
  have hblank {text : List Char} (h : AllSeparate text) : collapse text = leadingMark text := by
    have hall : collapse (text ++ []) = leadingMark (text ++ []) ++ collapse [] :=
      collapse_append_of_allSeparate h rfl
    rwa [List.append_nil, collapse, List.append_nil] at hall
  induction h with
  | nil h => exact ⟨[], List.forall_mem_nil _, by rw [hblank h]; simp⟩
  | @cons lead run rest runs hlead hrun hend h ih =>
    have hstart : leadingMark (run ++ rest) = [] := by
      obtain ⟨c, tail, rfl⟩ := List.exists_cons_of_ne_nil hrun.1
      simp [leadingMark, isSeparator, hrun.2]
    rw [collapse_append_of_allSeparate hlead hstart, collapse_append_of_isAlphanum hrun.2]
    cases h with
    | nil h =>
      exact ⟨leadingMark rest, fun _ => eq_underscore_of_mem_leadingMark,
        by rw [hblank h, List.intercalate_singleton]⟩
    | @cons lead' run' rest' runs' hlead' hrun' hend' h' =>
      obtain ⟨back, hback, hcollapse⟩ := ih
      -- Another run follows, so it is a separator that ends this one.
      have hmark : leadingMark (lead' ++ (run' ++ rest')) = ['_'] := by
        obtain ⟨c, hc⟩ : ∃ c, (lead' ++ (run' ++ rest')).head? = some c := by
          obtain ⟨c, tail, rfl⟩ := List.exists_cons_of_ne_nil hrun'.1
          cases lead' <;> exact ⟨_, rfl⟩
        rw [leadingMark, hc, Option.any_some, hend c hc, if_pos rfl]
      refine ⟨back, hback, ?_⟩
      rw [hcollapse, hmark, List.intercalate_cons_cons]
      simp

/-- Nothing but marks is dropped at the ends of a text. -/
theorem trimMark_append (hfront : ∀ c ∈ front, c = mark) (hback : ∀ c ∈ back, c = mark)
    (hfirst : middle.head? ≠ some mark) (hlast : middle.getLast? ≠ some mark) :
    trimMark mark (front ++ (middle ++ back)) = middle := by
  have hmarks {text : List Char} (h : ∀ c ∈ text, c = mark) :
      ∀ c ∈ text, (c == mark) = true := fun c hc => beq_iff_eq.2 (h c hc)
  have hstop {text : List Char} (h : text.head? ≠ some mark) :
      text.dropWhile (· == mark) = text := by
    cases text with
    | nil => rfl
    | cons c text => exact List.dropWhile_cons_of_neg fun hc => h (congrArg some (beq_iff_eq.1 hc))
  rw [trimMark, List.dropWhile_append_of_pos (hmarks hfront)]
  cases middle with
  | nil =>
    have hall : (back ++ []).dropWhile (· == mark) = [].dropWhile (· == mark) :=
      List.dropWhile_append_of_pos (hmarks hback)
    rw [List.append_nil, List.dropWhile_nil] at hall
    rw [List.nil_append, hall]
    rfl
  | cons c middle =>
    have hreverse : ∀ d ∈ back.reverse, d = mark := fun d hd => hback d (List.mem_reverse.1 hd)
    have hkept : (c :: middle ++ back).dropWhile (· == mark) = c :: middle ++ back := hstop hfirst
    have hkept' : (c :: middle).reverse.dropWhile (· == mark) = (c :: middle).reverse :=
      hstop (by rwa [List.head?_reverse])
    rw [hkept, List.reverse_append, List.dropWhile_append_of_pos (hmarks hreverse), hkept',
      List.reverse_reverse]

/-! ## Joined runs -/

section Joined

variable (h : ∀ run ∈ runs, IsRun run)

include h

theorem isAlphanum_of_head?_intercalate (hc : (['_'].intercalate runs).head? = some c) :
    c.isAlphanum = true := by
  cases runs with
  | nil => cases hc
  | cons run runs =>
    have hrun := h run List.mem_cons_self
    obtain ⟨d, tail, rfl⟩ := List.exists_cons_of_ne_nil hrun.1
    obtain rfl : d = c := by
      cases runs with
      | nil => simpa using hc
      | cons next runs => simpa [List.intercalate_cons_cons] using hc
    exact hrun.2 d List.mem_cons_self

theorem isAlphanum_of_getLast?_intercalate (hc : (['_'].intercalate runs).getLast? = some c) :
    c.isAlphanum = true := by
  induction runs with
  | nil => cases hc
  | cons run runs ih =>
    obtain ⟨hrun, hruns⟩ := List.forall_mem_cons.1 h
    cases runs with
    | nil =>
      rw [List.intercalate_singleton] at hc
      exact hrun.2 c (List.mem_of_getLast? hc)
    | cons next runs =>
      have hne : ['_'].intercalate (next :: runs) ≠ [] := by
        obtain ⟨d, tail, hnext⟩ := List.exists_cons_of_ne_nil (hruns next List.mem_cons_self).1
        cases runs <;> simp [List.intercalate_cons_cons, hnext]
      rw [List.intercalate_cons_cons, List.getLast?_append_of_ne_nil _ hne] at hc
      exact ih hruns hc

/-- No two separators are next to each other. -/
theorem isChain_intercalate :
    (['_'].intercalate runs).IsChain fun c d => ¬(isSeparator c = true ∧ isSeparator d = true) := by
  have hrunChain {run : List Char} (hrun : IsRun run) :
      run.IsChain fun c d => ¬(isSeparator c = true ∧ isSeparator d = true) := by
    refine List.Pairwise.isChain (List.pairwise_of_forall_mem_list fun c hc d _ hcd => ?_)
    rw [isSeparator_eq_false_iff.2 (hrun.2 c hc)] at hcd
    exact Bool.false_ne_true hcd.1
  induction runs with
  | nil => exact List.IsChain.nil
  | cons run runs ih =>
    obtain ⟨hrun, hruns⟩ := List.forall_mem_cons.1 h
    cases runs with
    | nil =>
      rw [List.intercalate_singleton]
      exact hrunChain hrun
    | cons next runs =>
      rw [List.intercalate_cons_cons, List.append_assoc, List.singleton_append]
      refine List.isChain_append.2 ⟨hrunChain hrun, ?_, fun c hc d _ hcd => ?_⟩
      · refine List.isChain_cons.2 ⟨fun d hd hcd => ?_, ih hruns⟩
        rw [isSeparator_eq_false_iff.2 (isAlphanum_of_head?_intercalate hruns hd)] at hcd
        exact Bool.false_ne_true hcd.2
      · rw [isSeparator_eq_false_iff.2 (hrun.2 c (List.mem_of_getLast? hc))] at hcd
        exact Bool.false_ne_true hcd.1

end Joined

/-! ## Names -/

/-- The letters and digits of the runs are those of the text. -/
theorem flatten_alphanumericRuns (text : List Char) :
    (alphanumericRuns text).flatten = text.filter Char.isAlphanum := by
  have hruns := areMaximalRuns_iff.2 (Eq.refl (alphanumericRuns text))
  have hskip {text : List Char} (h : AllSeparate text) : text.filter Char.isAlphanum = [] :=
    List.filter_eq_nil_iff.2 fun c hc => by simp [isSeparator_eq_true_iff.1 (h c hc)]
  generalize alphanumericRuns text = runs at hruns
  induction hruns with
  | nil h => exact (hskip h).symm
  | cons hlead hrun _ _ ih =>
    rw [List.filter_append, List.filter_append, hskip hlead, List.filter_eq_self.2 hrun.2,
      List.flatten_cons, ih, List.nil_append]

/-- **Collapsing the separators of a name** leaves its runs, joined with underscores. -/
theorem collapsedName_eq_sanitize (name : String) : collapsedName name = sanitize name := by
  obtain ⟨back, hback, hcollapse⟩ :=
    (areMaximalRuns_iff.2 (Eq.refl (alphanumericRuns name.toList))).collapse_eq
  have hmark : ∀ c ∈ leadingMark name.toList, c = '_' :=
    fun _ => eq_underscore_of_mem_leadingMark
  have hruns : ∀ run ∈ alphanumericRuns name.toList, IsRun run :=
    fun _ => isRun_of_mem_alphanumericRuns
  have hfirst : (['_'].intercalate (alphanumericRuns name.toList)).head? ≠ some '_' :=
    fun h => absurd (isAlphanum_of_head?_intercalate hruns h) (by decide)
  have hlast : (['_'].intercalate (alphanumericRuns name.toList)).getLast? ≠ some '_' :=
    fun h => absurd (isAlphanum_of_getLast?_intercalate hruns h) (by decide)
  rw [collapsedName, hcollapse, trimMark_append hmark hback hfirst hlast, ← toList_sanitize,
    String.ofList_toList]

/-- **The identifier that is made of a name** is its maximal runs of letters and digits, joined with
single underscores. So it has the letters and digits of the name in their order, it is made of
itself, it neither begins nor ends with an underscore and has no two of them in a row, and names
with one identifier are those with the same runs. -/
theorem collapsedName_exact :
    (∀ name : String, ∃ runs, (∀ others, AreMaximalRuns others name.toList ↔ others = runs) ∧
      collapsedName name = "_".intercalate (runs.map String.ofList)) ∧
    (∀ name : String, (collapsedName name).toList.filter Char.isAlphanum =
      name.toList.filter Char.isAlphanum) ∧
    (∀ name, collapsedName (collapsedName name) = collapsedName name) ∧
    (∀ name, (collapsedName name).toList.head? ≠ some '_' ∧
      (collapsedName name).toList.getLast? ≠ some '_' ∧
      ¬['_', '_'] <:+: (collapsedName name).toList) ∧
    (∀ name other : String, collapsedName name = collapsedName other ↔
      ∃ runs, AreMaximalRuns runs name.toList ∧ AreMaximalRuns runs other.toList) ∧
    ∀ name, collapsedName name = sanitize name := by
  have hruns (name : String) : ∀ run ∈ alphanumericRuns name.toList, IsRun run :=
    fun _ => isRun_of_mem_alphanumericRuns
  refine ⟨fun name => ⟨alphanumericRuns name.toList, fun _ => areMaximalRuns_iff, ?_⟩,
    fun name => ?_, fun name => ?_, fun name => ⟨fun h => ?_, fun h => ?_, fun h => ?_⟩,
    fun name other => ?_, collapsedName_eq_sanitize⟩
  · rw [collapsedName_eq_sanitize, sanitize]
  · rw [collapsedName_eq_sanitize, ← flatten_alphanumericRuns, alphanumericRuns_sanitize,
      flatten_alphanumericRuns]
  · rw [collapsedName_eq_sanitize, collapsedName_eq_sanitize, sanitize_eq_iff,
      alphanumericRuns_sanitize]
  · rw [collapsedName_eq_sanitize, toList_sanitize] at h
    exact absurd (isAlphanum_of_head?_intercalate (hruns name) h) (by decide)
  · rw [collapsedName_eq_sanitize, toList_sanitize] at h
    exact absurd (isAlphanum_of_getLast?_intercalate (hruns name) h) (by decide)
  · rw [collapsedName_eq_sanitize, toList_sanitize] at h
    obtain ⟨front, back, happend⟩ := h
    have hchain := isChain_intercalate (hruns name)
    rw [← happend] at hchain
    exact absurd hchain.left_of_append.right_of_append (by decide)
  · rw [collapsedName_eq_sanitize, collapsedName_eq_sanitize, sanitize_eq_iff]
    simp only [areMaximalRuns_iff]
    refine ⟨fun h => ⟨_, rfl, h⟩, ?_⟩
    rintro ⟨runs, hname, hother⟩
    exact hname.symm.trans hother

example : collapsedName "_std::map<é, int>*" = "std_map_int" := by cbv

end FortranBindings.Text
