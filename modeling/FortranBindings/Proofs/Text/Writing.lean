import FortranBindings.Proofs.Text.Lines
import FortranBindings.Text.Writing

/-!
# Code that is written in stages

What is written is the lines of the code with an indentation in front of each of them
(`Text.written_eq_indented`), whatever ends the lines. These lines are found again in what was
written, and a text that ends with a line break can be written apart from what follows
(`Text.codeLines_append_of_endsLine`). So code may be written in stages (`Text.writeCode_staged`):
collected first and written with an indentation later, it gives the same text as code that is
written at once.
-/

namespace FortranBindings.Text

variable {text rest line : List Char} {before after code out indent : String}
  {lines codes : List String}

/-! ## Lines of a text -/

theorem trimEnd_append_of_blank (h : ∀ c ∈ rest, isBlank c = true) (text : List Char) :
    trimEnd (text ++ rest) = trimEnd text := by
  induction text with
  | nil => exact trimEnd_eq_nil_iff.2 h
  | cons c text ih => rw [List.cons_append, trimEnd, trimEnd, ih]

/-- What ends a line is blank. -/
theorem trimEnd_withoutLineEnd (line : List Char) :
    trimEnd (withoutLineEnd line) = trimEnd line := by
  fun_induction withoutLineEnd line with
  | case1 | case2 | case3 => rfl
  | case4 c rest _ _ ih => rw [trimEnd, trimEnd, ih]

theorem splitLines_of_notMem (h : '\n' ∉ line) (hne : line ≠ []) : splitLines line = [line] := by
  induction line with
  | nil => exact absurd rfl hne
  | cons c line ih =>
    obtain ⟨hc, hline⟩ := not_or.1 (mt List.mem_cons.2 h)
    rw [splitLines, if_neg (Ne.symm hc)]
    cases line with
    | nil => rfl
    | cons d line => rw [ih hline (List.cons_ne_nil _ _)]

/-- The first line break ends the first line. -/
theorem splitLines_append_cons (h : '\n' ∉ line) (rest : List Char) :
    splitLines (line ++ '\n' :: rest) = (line ++ ['\n']) :: splitLines rest := by
  induction line with
  | nil => rfl
  | cons c line ih =>
    obtain ⟨hc, hline⟩ := not_or.1 (mt List.mem_cons.2 h)
    rw [List.cons_append, splitLines, if_neg (Ne.symm hc), ih hline]
    rfl

/-- The lines of a text are those that line feeds separate, but for blanks at their ends and blank
lines. -/
theorem filter_map_trimEnd_splitLines (text : List Char) :
    ((splitLines text).map trimEnd).filter (· ≠ []) =
      ((text.splitOnP (· == '\n')).map trimEnd).filter (· ≠ []) := by
  induction hlength : text.length using Nat.strongRecOn generalizing text with
  | ind n ih =>
    by_cases hmem : '\n' ∈ text
    · obtain ⟨line, rest, rfl, hline⟩ := List.eq_append_cons_of_mem hmem
      have hrest := ih rest.length (by rw [← hlength]; simp; omega) rest rfl
      have hfree : ∀ c ∈ line, (c == '\n') = false :=
        fun c hc => beq_false_of_ne fun heq => hline (heq ▸ hc)
      have hbreak : ∀ c ∈ ['\n'], isBlank c = true := fun c hc => by
        rw [List.mem_singleton.1 hc]
        decide
      rw [splitLines_append_cons hline, List.splitOnP_append_cons_of_forall_mem hfree _ rfl,
        List.map_cons, List.map_cons, trimEnd_append_of_blank hbreak, List.filter_cons,
        List.filter_cons, hrest]
    · cases text with
      | nil => rfl
      | cons c text =>
        have hfree : ∀ d ∈ c :: text, (d == '\n') = false :=
          fun d hd => beq_false_of_ne fun heq => hmem (heq ▸ hd)
        rw [splitLines_of_notMem hmem (List.cons_ne_nil _ _), List.splitOnP_eq_singleton hfree]

/-- The lines of code are the lines of the text without blanks at their ends and without the blank
ones among them. -/
theorem codeLines_eq_filter_linesOf (code : String) :
    codeLines code = ((linesOf code).map withoutTrailingBlanks).filter (· ≠ "") := by
  have htrimmed : (linesOf code).map withoutTrailingBlanks =
      ((splitLines code.toList).map trimEnd).map String.ofList := by
    rw [linesOf, List.map_map, List.map_map]
    refine List.map_congr_left fun line _ => ?_
    rw [Function.comp_apply, Function.comp_apply, withoutTrailingBlanks, String.toList_ofList,
      trimEnd_withoutLineEnd]
  have hempty (texts : List (List Char)) : (texts.map String.ofList).filter (· ≠ "") =
      (texts.filter (· ≠ [])).map String.ofList := by
    rw [List.filter_map]
    congr 2
    funext line
    simp [String.ofList_eq_empty_iff]
  rw [codeLines, htrimmed, hempty, filter_map_trimEnd_splitLines]

/-! ## What is written -/

theorem indented_append (indent : String) (lines others : List String) :
    indented indent (lines ++ others) = indented indent lines ++ indented indent others := by
  simp [indented]

theorem foldl_writeLine (indent out : String) (lines : List String) :
    lines.foldl (writeLine indent) out =
      out ++ indented indent ((lines.map withoutTrailingBlanks).filter (· ≠ "")) := by
  induction lines generalizing out with
  | nil => simp [indented]
  | cons line lines ih =>
    rw [List.foldl_cons, ih, writeLine, List.map_cons, List.filter_cons]
    by_cases hline : withoutTrailingBlanks line = ""
    · simp [hline]
    · simp [hline, indented, String.append_assoc]

/-- Code is written as its lines with the indentation in front of each of them. -/
theorem writeCode_eq (out code indent : String) :
    writeCode out code indent = out ++ indented indent (codeLines code) := by
  rw [writeCode, foldl_writeLine, codeLines_eq_filter_linesOf]

theorem written_eq_indented (code indent : String) :
    written code indent = indented indent (codeLines code) := by
  rw [written, writeCode_eq, String.empty_append]

/-- Lines that were written without indentation are the lines that were there. -/
theorem codeLines_indented_empty (h : ∀ line ∈ lines, IsCodeLine line) :
    codeLines (indented "" lines) = lines := by
  rw [codeLines_indented (by decide) h]
  exact (List.map_congr_left fun line _ => String.empty_append).trans (List.map_id _)

/-- The text is empty or ends with a line break, so that what is put behind it starts a line. -/
def EndsLine (text : String) : Prop :=
  text = "" ∨ text.toList.getLast? = some '\n'

instance : DecidablePred EndsLine :=
  fun text => inferInstanceAs (Decidable (text = "" ∨ text.toList.getLast? = some '\n'))

theorem codeLines_append_of_endsLine (h : EndsLine before) (after : String) :
    codeLines (before ++ after) = codeLines before ++ codeLines after := by
  rcases h with rfl | hlast
  · rw [String.empty_append, codeLines_empty, List.nil_append]
  · obtain ⟨front, hfront⟩ := List.getLast?_eq_some_iff.1 hlast
    obtain rfl : before = String.ofList front ++ "\n" := by
      rw [← String.toList_inj, hfront, String.toList_append, String.toList_ofList]
      rfl
    have hbefore := codeLines_append (String.ofList front) ""
    rw [String.append_empty, codeLines_empty, List.append_nil] at hbefore
    rw [codeLines_append, hbefore]

/-- Pieces of code that are written one after the other. -/
theorem foldl_writeCode (codes : List String) (out indent : String) :
    codes.foldl (fun out code => writeCode out code indent) out =
      out ++ indented indent (codes.flatMap codeLines) := by
  induction codes generalizing out with
  | nil => simp [indented]
  | cons code codes ih =>
    rw [List.foldl_cons, ih, writeCode_eq, List.flatMap_cons, indented_append, String.append_assoc]

/-- Trimming leaves nothing of a line exactly if all of it is blank. -/
theorem withoutTrailingBlanks_eq_empty_iff :
    withoutTrailingBlanks code = "" ↔ code.toList.all isBlank = true := by
  rw [withoutTrailingBlanks, String.ofList_eq_empty_iff, trimEnd_eq_nil_iff, List.all_eq_true]

/-- **Code may be written in stages.** Writing adds the lines that are not blank, each with the
indentation in front and without the blanks at its end. What was written without indentation is
written once more as the code itself would be, and stays as it is if there is no indentation again.
A text that is empty or ends with a line break is written apart from what follows. So pieces of code
that are collected first and then written with an indentation give what they give if each of them is
written with it. -/
theorem writeCode_staged :
    (∀ out code indent, writeCode out code indent = out ++ written code indent) ∧
    (∀ code indent, written code indent =
      String.join (((linesOf code).filter fun line => !line.toList.all isBlank).map
        fun line => indent ++ withoutTrailingBlanks line ++ "\n")) ∧
    (∀ code indent, written (written code "") indent = written code indent) ∧
    (∀ code, written (written code "") "" = written code "") ∧
    (∀ before after indent, EndsLine before →
      written (before ++ after) indent = written before indent ++ written after indent) ∧
    (∀ (codes : List String) out indent,
      writeCode out (codes.foldl (fun out code => writeCode out code "") "") indent =
        codes.foldl (fun out code => writeCode out code indent) out) ∧
    ∀ (codes : List String) out indent,
      codes.foldl (fun out code => writeCode out code indent) out =
        out ++ indented indent (codes.flatMap codeLines) := by
  have hagain (code indent : String) : written (written code "") indent = written code indent := by
    rw [written_eq_indented, written_eq_indented code "",
      codeLines_indented_empty fun _ => isCodeLine_of_mem, written_eq_indented]
  refine ⟨fun out code indent => ?_, fun code indent => ?_, hagain, fun code => hagain code "",
    fun before after indent hbefore => ?_, fun codes out indent => ?_,
    fun codes out indent => foldl_writeCode codes out indent⟩
  · rw [writeCode_eq, written_eq_indented]
  · rw [written_eq_indented, codeLines_eq_filter_linesOf, List.filter_map, indented, List.map_map]
    congr 2
    refine List.filter_congr fun line _ => ?_
    simp only [Function.comp_apply, ne_eq, withoutTrailingBlanks_eq_empty_iff, decide_not,
      Bool.decide_eq_true]
  · rw [written_eq_indented, codeLines_append_of_endsLine hbefore, indented_append,
      written_eq_indented, written_eq_indented]
  · have hlines : ∀ line ∈ codes.flatMap codeLines, IsCodeLine line := by
      intro line hline
      obtain ⟨code, -, hmem⟩ := List.mem_flatMap.1 hline
      exact isCodeLine_of_mem hmem
    rw [foldl_writeCode, foldl_writeCode, writeCode_eq, String.empty_append,
      codeLines_indented_empty hlines]

/-- The code of one argument ends its line, and that of the next one does not. -/
theorem writeCode_staged_of_twoArguments :
    EndsLine "free(arg1);\r\n" ∧
    written ("free(arg1);\r\n" ++ "\t\n delete arg2;  ") "  " =
      written "free(arg1);\r\n" "  " ++ written "\t\n delete arg2;  " "  " ∧
    written ("free(arg1);\r\n" ++ "\t\n delete arg2;  ") "  " =
      "  free(arg1);\n   delete arg2;\n" :=
  ⟨by decide, writeCode_staged.2.2.2.2.1 _ _ _ (by decide), by decide⟩

end FortranBindings.Text
