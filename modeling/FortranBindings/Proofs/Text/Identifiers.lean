import FortranBindings.Proofs.Text.Decimal
import FortranBindings.Proofs.Text.Literal

/-!
# What an identifier tells about a name

The identifier that is made of a name has the runs of letters and digits of the name and no others
(`Text.alphanumericRuns_sanitize`). So two names have one identifier exactly if they have the same
runs (`Text.sanitize_eq_iff`), and identifiers that differ in case only exactly if their runs differ
in case only (`Text.toLower_sanitize_eq_iff`).
-/

namespace FortranBindings.Text

variable {text rest run : List Char} {runs : List (List Char)} {c : Char} {name other : String}

/-! ## Runs -/

/-- What is neither a letter nor a digit separates runs. -/
theorem alphanumericRuns_append_cons (hc : c.isAlphanum = false) (text rest : List Char) :
    alphanumericRuns (text ++ c :: rest) = alphanumericRuns text ++ alphanumericRuns rest := by
  have hseparator : (!c.isAlphanum) = true := by rw [hc]; rfl
  rw [alphanumericRuns, List.splitOnP_append_cons text rest hseparator, List.filter_append]
  rfl

/-- A text without letters and digits has no runs of them. -/
theorem alphanumericRuns_eq_nil_iff :
    alphanumericRuns text = [] ↔ ∀ c ∈ text, c.isAlphanum = false := by
  induction text with
  | nil => exact iff_of_true rfl nofun
  | cons c rest ih =>
    rw [List.forall_mem_cons, ← ih, alphanumericRuns, alphanumericRuns,
      List.splitOnP_cons_eq_if_modifyHead]
    cases c.isAlphanum with
    | false => simp
    | true =>
      obtain ⟨first, others, hsplit⟩ := List.exists_cons_of_ne_nil
        (List.splitOnP_ne_nil (fun c => !c.isAlphanum) rest)
      simp [hsplit]

/-- The run is not empty, and it has letters and digits only. -/
def IsRun (run : List Char) : Prop := run ≠ [] ∧ ∀ c ∈ run, c.isAlphanum = true

theorem isRun_of_mem_alphanumericRuns (h : run ∈ alphanumericRuns text) : IsRun run := by
  obtain ⟨hsplit, hne⟩ := List.mem_filter.1 h
  exact ⟨by simpa using hne, fun c hc => by simpa using (mem_of_mem_splitOnP hsplit hc).2⟩

theorem alphanumericRuns_of_isRun (h : IsRun run) : alphanumericRuns run = [run] := by
  rw [alphanumericRuns, List.splitOnP_eq_singleton fun c hc => by rw [h.2 c hc]; rfl,
    List.filter_singleton, decide_eq_true h.1]
  rfl

/-- Runs that are joined with underscores are the runs of what this gives. -/
theorem alphanumericRuns_intercalate (h : ∀ run ∈ runs, IsRun run) :
    alphanumericRuns (['_'].intercalate runs) = runs := by
  have hunderscore : ('_' : Char).isAlphanum = false := by decide
  induction runs with
  | nil => rfl
  | cons run runs ih =>
    obtain ⟨hrun, hruns⟩ := List.forall_mem_cons.1 h
    cases runs with
    | nil =>
      rw [List.intercalate_singleton]
      exact alphanumericRuns_of_isRun hrun
    | cons next runs =>
      rw [List.intercalate_cons_cons, List.append_assoc, List.singleton_append,
        alphanumericRuns_append_cons hunderscore, alphanumericRuns_of_isRun hrun, ih hruns]
      rfl

/-! ## Identifiers -/

theorem toList_sanitize (name : String) :
    (sanitize name).toList = ['_'].intercalate (alphanumericRuns name.toList) := by
  rw [sanitize, String.toList_intercalate, List.map_map]
  congr 1
  exact (List.map_congr_left fun run _ => String.toList_ofList).trans (List.map_id _)

/-- **The identifier has the runs of the name.** -/
theorem alphanumericRuns_sanitize (name : String) :
    alphanumericRuns (sanitize name).toList = alphanumericRuns name.toList := by
  rw [toList_sanitize]
  exact alphanumericRuns_intercalate fun _ => isRun_of_mem_alphanumericRuns

/-- **One identifier for the same runs.** -/
theorem sanitize_eq_iff : sanitize name = sanitize other ↔
    alphanumericRuns name.toList = alphanumericRuns other.toList := by
  refine ⟨fun h => ?_, fun h => by rw [sanitize, sanitize, h]⟩
  rw [← alphanumericRuns_sanitize name, h, alphanumericRuns_sanitize]

/-! ## Case -/

/-- Letters and digits are letters and digits in lower case, and nothing else is. -/
theorem isAlphanum_toLower (c : Char) : c.toLower.isAlphanum = c.isAlphanum := by
  have hcases (c : Char) : c.isAlphanum = (c.isUpper || c.isLower || c.isDigit) := rfl
  unfold Char.toLower
  split
  · next hupper =>
    have hvalue : 65 ≤ c.val.toNat ∧ c.val.toNat ≤ 90 := by
      simpa [UInt32.le_iff_toNat_le] using hupper
    have hlower : (c.val + ('a'.val - 'A'.val)).toNat = c.val.toNat + 32 := by
      rw [UInt32.toNat_add]
      have hshift : ('a'.val - 'A'.val).toNat = 32 := by decide
      omega
    have hbefore : c.isUpper = true := decide_eq_true hupper
    have hbehind (h : (c.val + ('a'.val - 'A'.val)).isValidChar) :
        (Char.mk (c.val + ('a'.val - 'A'.val)) h).isLower = true := by
      show (decide (c.val + ('a'.val - 'A'.val) ≥ 'a'.val) &&
        decide (c.val + ('a'.val - 'A'.val) ≤ 'z'.val)) = true
      have hrange : 97 ≤ c.val.toNat + 32 ∧ c.val.toNat + 32 ≤ 122 := by omega
      rw [← hlower] at hrange
      simpa [UInt32.le_iff_toNat_le] using hrange
    rw [hcases, hcases, hbefore, hbehind, Bool.or_true]
    rfl
  · rfl

theorem splitOnP_map (p : Char → Bool) (f : Char → Char) (text : List Char) :
    (text.map f).splitOnP p = (text.splitOnP (p ∘ f)).map (List.map f) := by
  induction text with
  | nil => rfl
  | cons c rest ih =>
    rw [List.map_cons, List.splitOnP_cons_eq_if_modifyHead, List.splitOnP_cons_eq_if_modifyHead, ih]
    obtain ⟨first, others, hsplit⟩ :=
      List.exists_cons_of_ne_nil (List.splitOnP_ne_nil (p ∘ f) rest)
    rw [hsplit]
    cases h : p (f c) <;> simp [h]

theorem alphanumericRuns_map_toLower (text : List Char) :
    alphanumericRuns (text.map Char.toLower) =
      (alphanumericRuns text).map (List.map Char.toLower) := by
  have hsame : (fun c : Char => !c.isAlphanum) ∘ Char.toLower = fun c => !c.isAlphanum :=
    funext fun c => congrArg (!·) (isAlphanum_toLower c)
  rw [alphanumericRuns, splitOnP_map, hsame, List.filter_map, alphanumericRuns]
  congr 2
  funext run
  simp

theorem map_intercalate (f : Char → Char) (separator : List Char) (texts : List (List Char)) :
    (separator.intercalate texts).map f =
      (separator.map f).intercalate (texts.map (List.map f)) := by
  induction texts with
  | nil => rfl
  | cons text texts ih =>
    cases texts with
    | nil => simp
    | cons next texts =>
      rw [List.intercalate_cons_cons, List.map_append, List.map_append, ih]
      exact List.intercalate_cons_cons.symm

/-- The identifier of a name in lower case. -/
theorem sanitize_toLower (name : String) : sanitize name.toLower = (sanitize name).toLower := by
  rw [← String.toList_inj, toList_sanitize, toList_toLower, toList_toLower, toList_sanitize,
    alphanumericRuns_map_toLower, map_intercalate]
  rfl

/-- **One identifier without regard to case** for runs that are the same in lower case. -/
theorem toLower_sanitize_eq_iff : (sanitize name).toLower = (sanitize other).toLower ↔
    (alphanumericRuns name.toList).map (List.map Char.toLower) =
      (alphanumericRuns other.toList).map (List.map Char.toLower) := by
  rw [← sanitize_toLower, ← sanitize_toLower, sanitize_eq_iff, toList_toLower, toList_toLower,
    alphanumericRuns_map_toLower, alphanumericRuns_map_toLower]

end FortranBindings.Text
