import FortranBindings.LineDiff.Edit

/-!
# Shortest edit paths

A path through the grid of old and new lines goes right where an old line is deleted, down where a
new line is inserted and along a diagonal where the two lines agree. The search goes from both
corners at once, one edit further at a time, until a path from the front meets one from the back;
the lines before and after the meeting point are treated the same way. The script that comes out
connects the two lists (`before_after_shortest`).
-/

namespace FortranBindings.LineDiff

/-- How many old lines are passed by going along the diagonal from a point while lines agree. -/
def slide (old new : Array String) (x y : Nat) : Nat :=
  if h : x < old.size ∧ y < new.size then
    if old[x] = new[y] then slide old new (x + 1) (y + 1) else x
  else x
termination_by old.size - x

/-- How far the paths with some number of edits reach. -/
structure Frontier where
  /-- The number of edits. -/
  edits : Nat
  /-- The old lines passed on the diagonals `edits`, `edits - 2`, down to `-edits`. -/
  reached : Array Nat

namespace Frontier

/-- The old lines passed on a diagonal, the number of old lines passed less that of new lines. -/
def at? (frontier : Frontier) (diagonal : Int) : Option Nat :=
  if diagonal.natAbs ≤ frontier.edits then
    frontier.reached[((frontier.edits - diagonal) / 2).toNat]?
  else none

/-- The frontier with no path at all, in front of the one with no edits. -/
def start : Frontier := ⟨0, #[]⟩

/-- A point of the grid after one more edit, and the number of old lines passed after the diagonal
that starts there. -/
structure Advance where
  diagonal : Int
  x : Nat
  y : Nat
  reach : Nat

/-- The farthest points with one edit more than the frontier, from the diagonal with the most
deleted lines to the one with the most inserted lines. Of two ways to a diagonal the one is taken
that has passed more old lines; on a tie that is the deletion. -/
def advances (frontier : Frontier) (edits : Nat) (old new : Array String) : List Advance :=
  (List.range (edits + 1)).map fun i =>
    let x :=
      if edits = 0 then 0
      else if i = edits then frontier.reached.getD (i - 1) 0
      else
        let right := frontier.reached.getD i 0
        let down := frontier.reached.getD (i - 1) 0
        if i ≠ 0 ∧ right < down then down else right + 1
    let y := x + 2 * i - edits
    ⟨edits - 2 * i, x, y, slide old new x y⟩

/-- The frontier made of the farthest points. -/
def ofAdvances (edits : Nat) (advances : List Advance) : Frontier :=
  ⟨edits, (advances.map (·.reach)).toArray⟩

end Frontier

/-- The point where a shortest path from the front meets one from the back: the numbers of old and
new lines before it. Paths of up to `edits + fuel` edits from each side are tried. -/
def meetingFrom (old new : Array String) (fuel edits : Nat) (front back : Frontier) :
    Option (Nat × Nat) :=
  match fuel with
  | 0 => none
  | fuel + 1 =>
    let delta : Int := old.size - new.size
    let meets (reach : Nat) (diagonal : Int) (other : Frontier) : Bool :=
      (other.at? (delta - diagonal)).any fun passed => old.size ≤ reach + passed
    let forward := front.advances edits old new
    let odd := delta % 2 ≠ 0
    match forward.find? fun a => odd ∧ 0 < edits ∧ meets a.reach a.diagonal back with
    | some a => some (a.x, a.y)
    | none =>
      let front := Frontier.ofAdvances edits forward
      let backward := back.advances edits old.reverse new.reverse
      match backward.find? fun a => ¬odd ∧ meets a.reach a.diagonal front with
      | some a => some (old.size - a.reach, new.size - (a.y + (a.reach - a.x)))
      | none => meetingFrom old new fuel (edits + 1) front (Frontier.ofAdvances edits backward)

/-- A point in the middle of a shortest path between lists that are not empty, if one is found. -/
def meeting (old new : List String) : Option (Nat × Nat) :=
  if old = [] ∨ new = [] then none
  else meetingFrom old.toArray new.toArray ((old.length + new.length + 1) / 2 + 1) 0 .start .start

/-- A shortest script from one list of lines to another. The lines that both have at their ends are
kept; what is between them is divided at a meeting point, or replaced if there is none. -/
def shortest (old new : List String) : Script :=
  let trimmed := Trimmed.of old new
  let point := (meeting trimmed.old trimmed.new).getD (0, 0)
  let old' := trimmed.old
  let new' := trimmed.new
  let middle :=
    if _h : (old'.take point.1).length + (new'.take point.2).length ≠ 0 ∧
        (old'.drop point.1).length + (new'.drop point.2).length ≠ 0 then
      shortest (old'.take point.1) (new'.take point.2) ++
        shortest (old'.drop point.1) (new'.drop point.2)
    else Script.replacement old' new'
  Script.kept trimmed.start ++ middle ++ Script.kept trimmed.finish
termination_by old.length + new.length
decreasing_by
  all_goals
    have := Trimmed.length_of_le old new
    simp only [List.length_take, List.length_drop, old', new', trimmed, point] at *
    omega

/-- A shortest script starts from the old lines and leads to the new ones. -/
theorem before_after_shortest (old new : List String) :
    (shortest old new).before = old ∧ (shortest old new).after = new := by
  fun_induction shortest old new with
  | case1 old new trimmed point old' new' middle ih₁ ih₂ =>
    have h := Trimmed.append_of old new
    have parts : middle.before = old' ∧ middle.after = new' := by
      unfold middle
      split
      · next divided =>
        have first := ih₁ divided
        have second := ih₂ divided
        simp [first, second]
      · simp
    simpa [parts, old', new', trimmed] using h

end FortranBindings.LineDiff
