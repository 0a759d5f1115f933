import Mathlib.Data.List.Basic
import FortranBindings.Proofs.Text.Literal
import FortranBindings.Text.Code

/-!
# Lines of code

The lines of a fragment are not blank, have no blanks at their ends and no line breaks
(`Text.IsCodeLine`, `Text.isCodeLine_of_mem`). Fragments can be put together at a line break
(`Text.codeLines_append`). So lines that were written are the lines that were there, whether with an
indentation in front of each of them (`Text.codeLines_indented`) or without
(`Text.codeLines_joinedLines`). Where lines are put behind some blanks, they are the same up to
indentation (`Text.dedented_codeLines_append`).
-/

namespace FortranBindings.Text

variable {line code before after indent : String} {lines : List String}

/-! ## Lines -/

/-- A line of code: it is not blank, has no blanks at its end and no line break. -/
structure IsCodeLine (line : String) : Prop where
  ne_empty : line ≠ ""
  trimmed : withoutTrailingBlanks line = line
  newline_notMem : '\n' ∉ line.toList

/-- The lines of a fragment are lines of code. -/
theorem isCodeLine_of_mem (h : line ∈ codeLines code) : IsCodeLine line := by
  obtain ⟨chars, hchars, rfl⟩ := List.mem_map.1 h
  obtain ⟨htrimmed, hne⟩ := List.mem_filter.1 hchars
  obtain ⟨piece, hpiece, rfl⟩ := List.mem_map.1 htrimmed
  refine ⟨fun hempty => ?_, ?_, fun hmem => ?_⟩
  · have hnil : trimEnd piece = [] := String.ofList_eq_empty_iff.1 hempty
    simp [hnil] at hne
  · rw [withoutTrailingBlanks, String.toList_ofList, trimEnd_trimEnd]
  · rw [String.toList_ofList] at hmem
    exact absurd (mem_of_mem_splitOnP hpiece (trimEnd_subset _ hmem)).2 (by decide)

/-- A line break starts a new line. -/
theorem codeLines_append (before after : String) :
    codeLines (before ++ "\n" ++ after) = codeLines before ++ codeLines after := by
  have hbreak : (before ++ "\n" ++ after).toList = before.toList ++ '\n' :: after.toList := by
    simp
  rw [codeLines, hbreak, List.splitOnP_append_cons _ _ rfl, List.map_append, List.filter_append,
    List.map_append]
  rfl

/-- Blanks alone are no line. -/
theorem codeLines_of_blank (hline : '\n' ∉ code.toList) (h : ∀ c ∈ code.toList, isBlank c = true) :
    codeLines code = [] := by
  have hsingle : code.toList.splitOnP (· == '\n') = [code.toList] :=
    List.splitOnP_eq_singleton fun c hc => beq_false_of_ne fun heq => hline (heq ▸ hc)
  rw [codeLines, hsingle, List.map_singleton, trimEnd_eq_nil_iff.2 h]
  rfl

theorem codeLines_empty : codeLines "" = [] := rfl

/-- What ends with something else than blanks has no blanks at its end. -/
theorem trimEnd_append {chars rest : List Char} (h : trimEnd rest ≠ []) :
    trimEnd (chars ++ rest) = chars ++ trimEnd rest := by
  induction chars with
  | nil => rfl
  | cons c chars ih =>
    rw [List.cons_append, trimEnd, ih]
    split
    · next hnil => exact absurd (List.append_eq_nil_iff.1 hnil).2 h
    · rfl

namespace IsCodeLine

theorem trimEnd_eq (h : IsCodeLine line) : trimEnd line.toList = line.toList := by
  have htrimmed := congrArg String.toList h.trimmed
  rwa [withoutTrailingBlanks, String.toList_ofList] at htrimmed

theorem toList_ne_nil (h : IsCodeLine line) : line.toList ≠ [] :=
  fun hnil => h.ne_empty (String.toList_inj.1 hnil)

/-- A line behind something that has no line break is a line as well. -/
theorem append (h : IsCodeLine line) (hindent : '\n' ∉ indent.toList) :
    IsCodeLine (indent ++ line) := by
  have hne : trimEnd line.toList ≠ [] := by
    rw [h.trimEnd_eq]
    exact h.toList_ne_nil
  refine ⟨fun hempty => ?_, String.toList_inj.1 ?_, ?_⟩
  · have hnil := congrArg String.toList hempty
    rw [String.toList_append] at hnil
    exact h.toList_ne_nil (List.append_eq_nil_iff.1 hnil).2
  · rw [withoutTrailingBlanks, String.toList_ofList, String.toList_append, trimEnd_append hne,
      h.trimEnd_eq]
  · rw [String.toList_append, List.mem_append, not_or]
    exact ⟨hindent, h.newline_notMem⟩

/-- A line of code is the only line of itself. -/
theorem codeLines_eq (h : IsCodeLine line) : codeLines line = [line] := by
  have hsingle : line.toList.splitOnP (· == '\n') = [line.toList] :=
    List.splitOnP_eq_singleton fun c hc => beq_false_of_ne fun heq => h.newline_notMem (heq ▸ hc)
  rw [codeLines, hsingle, List.map_singleton, h.trimEnd_eq]
  simp [h.toList_ne_nil, String.ofList_toList]

end IsCodeLine

/-! ## Lines that were written -/

/-- **Lines that were written** with an indentation are the lines that were there. -/
theorem codeLines_indented (hindent : '\n' ∉ indent.toList)
    (h : ∀ line ∈ lines, IsCodeLine line) :
    codeLines (indented indent lines) = lines.map (indent ++ ·) := by
  induction lines with
  | nil => rfl
  | cons line lines ih =>
    obtain ⟨hline, hlines⟩ := List.forall_mem_cons.1 h
    have hcons : indented indent (line :: lines) =
        indent ++ line ++ "\n" ++ indented indent lines := by
      simp [indented]
    rw [hcons, codeLines_append, (hline.append hindent).codeLines_eq, ih hlines]
    rfl

/-- Behind a text there come the lines one after the other. -/
theorem codeLines_append_joinedLines (before line : String) (lines : List String) :
    codeLines (before ++ joinedLines (line :: lines)) =
      codeLines (before ++ line) ++ codeLines (joinedLines lines) := by
  cases lines with
  | nil =>
    rw [joinedLines, joinedLines, String.intercalate_singleton, String.intercalate_nil,
      codeLines_empty, List.append_nil]
  | cons next lines =>
    rw [joinedLines, String.intercalate_cons_cons, ← joinedLines, ← String.append_assoc,
      ← String.append_assoc, codeLines_append]

theorem codeLines_joinedLines (h : ∀ line ∈ lines, IsCodeLine line) :
    codeLines (joinedLines lines) = lines := by
  induction lines with
  | nil => rfl
  | cons line lines ih =>
    obtain ⟨hline, hlines⟩ := List.forall_mem_cons.1 h
    have hcons := codeLines_append_joinedLines "" line lines
    rw [String.empty_append, String.empty_append] at hcons
    rw [hcons, hline.codeLines_eq, ih hlines]
    rfl

/-! ## Indentation -/

/-- Lines without the blanks in front of them. -/
def dedented (lines : List String) : List String :=
  lines.map withoutLeadingBlanks

theorem withoutLeadingBlanks_append (hblank : ∀ c ∈ indent.toList, isBlank c = true)
    (line : String) : withoutLeadingBlanks (indent ++ line) = withoutLeadingBlanks line := by
  rw [withoutLeadingBlanks, withoutLeadingBlanks, String.toList_append, trimStart, trimStart,
    List.dropWhile_append_of_pos hblank]

/-- **Lines put behind some blanks** are the same up to indentation. -/
theorem dedented_codeLines_append (hindent : '\n' ∉ indent.toList)
    (hblank : ∀ c ∈ indent.toList, isBlank c = true) (h : ∀ line ∈ lines, IsCodeLine line) :
    dedented (codeLines (indent ++ joinedLines lines)) = dedented lines := by
  cases lines with
  | nil =>
    rw [joinedLines, String.intercalate_nil, String.append_empty,
      codeLines_of_blank hindent hblank]
  | cons line lines =>
    obtain ⟨hline, hlines⟩ := List.forall_mem_cons.1 h
    rw [codeLines_append_joinedLines, (hline.append hindent).codeLines_eq,
      codeLines_joinedLines hlines, dedented, List.singleton_append, List.map_cons,
      withoutLeadingBlanks_append hblank]
    rfl

end FortranBindings.Text
