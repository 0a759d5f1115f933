import FortranBindings.LineDiff.Path
import FortranBindings.LineDiff.Settled

/-!
# Reports of line diffs

Two texts are compared line by line. The report shows the lines of both in order, marked as shared,
deleted or inserted, and between two shared lines the deleted ones before the inserted ones.
-/

namespace FortranBindings.LineDiff

/-- Cut a text behind every line break, which is `\n`, `\r\n` or a `\r` alone. -/
def cutLines : List Char → List (List Char)
  | [] => []
  | '\r' :: '\n' :: rest => ['\r', '\n'] :: cutLines rest
  | c :: rest =>
    if c = '\n' ∨ c = '\r' then [c] :: cutLines rest
    else
      match cutLines rest with
      | [] => [[c]]
      | line :: lines => (c :: line) :: lines

/-- No character is lost between the lines. -/
theorem flatten_cutLines (text : List Char) : (cutLines text).flatten = text := by
  fun_induction cutLines text with
  | case1 => rfl
  | case2 rest ih => simp [ih]
  | case3 c rest _ _ ih => simp [ih]
  | case4 c rest _ _ h ih => simpa [h] using ih
  | case5 c rest _ _ line lines h ih => simpa [h] using ih

/-- The lines of a text, each with the break that ends it. -/
def linesOf (text : String) : List String :=
  (cutLines text.toList).map String.ofList

/-- A line with its mark, ended by a line break if it has none. -/
def marked (mark line : String) : String :=
  mark ++ line ++ (if line.endsWith "\n" || line.endsWith "\r" then "" else "\n")

/-- The marked lines of a script. The inserted lines of `pending` stand before the next kept line.
-/
def report (pending : List String) : Script → List String
  | [] => pending.map (marked "+| ")
  | .keep lines :: rest => pending.map (marked "+| ") ++ lines.map (marked " | ") ++ report [] rest
  | .delete lines :: rest => lines.map (marked "-| ") ++ report pending rest
  | .insert lines :: rest => report (pending ++ lines) rest

/-- The outcome of a comparison. -/
structure Comparison where
  /-- Have the texts the same lines? -/
  same : Bool
  /-- The report, with an empty line behind it if the texts differ. -/
  printed : String

/-- Compare two texts. -/
def Comparison.of (left right : String) : Comparison :=
  let script := settled (shortest (linesOf left) (linesOf right))
  let same := script.isIdentity
  ⟨same, String.join (report [] script) ++ if same then "" else "\n"⟩

/-- The message of a comparison that found a difference. -/
def Comparison.failure? (comparison : Comparison) : Option String :=
  if comparison.same then none else some "Comparison failed"

end FortranBindings.LineDiff
