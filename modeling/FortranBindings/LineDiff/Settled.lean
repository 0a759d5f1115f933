import FortranBindings.LineDiff.Edit

/-!
# Settled scripts

A shortest script is not unique: a run of inserted lines can often move up or down over kept lines
that it agrees with. To join neighbouring runs, every deletion and then every insertion is moved up
as far as it goes and then down as far as it goes, and is joined with each run of its own kind that
it meets. Deletions move only past insertions; insertions move past deletions and past kept lines
that they agree with.
-/

namespace FortranBindings.LineDiff

/-- An edit in its script. -/
structure Cursor where
  /-- The edits above it, the nearest first. -/
  above : Script
  edit : Edit
  /-- The edits below it. -/
  below : Script

namespace Cursor

/-- Put kept lines in front of a script. -/
def keepFirst (lines : List String) : Script → Script
  | .keep more :: rest => .keep (lines ++ more) :: rest
  | rest => .keep lines :: rest

/-- Put kept lines at the end of a script whose edits are listed from the last to the first. -/
def keepLast (lines : List String) : Script → Script
  | .keep more :: rest => .keep (more ++ lines) :: rest
  | rest => .keep lines :: rest

/-- Move the edit up as far as it goes. -/
def raise (cursor : Cursor) : Cursor :=
  match cursor with
  | ⟨.insert more :: above, .insert lines, below⟩ => raise ⟨above, .insert (more ++ lines), below⟩
  | ⟨.delete more :: above, .delete lines, below⟩ => raise ⟨above, .delete (more ++ lines), below⟩
  | ⟨.delete more :: above, .insert lines, below⟩ =>
    raise ⟨above, .insert lines, .delete more :: below⟩
  | ⟨.insert more :: above, .delete lines, below⟩ =>
    raise ⟨above, .delete lines, .insert more :: below⟩
  | ⟨.keep more :: above, .insert lines, below⟩ =>
    let shared := commonEnd more lines
    if _h : 0 < shared.length ∧ shared.length ≤ more.length then
      raise ⟨Script.kept (more.take (more.length - shared.length)) ++ above,
        .insert (shared ++ lines.take (lines.length - shared.length)), keepFirst shared below⟩
    else cursor
  | _ => cursor
termination_by cursor.above.weight
decreasing_by
  all_goals simp only [Script.weight_cons, Script.weight_append, Edit.lines]
  case _ => omega
  case _ => omega
  case _ => omega
  case _ => omega
  case _ =>
    have := Script.weight_kept_le (more.take (more.length - shared.length))
    rw [List.length_take] at this
    simp only [shared] at *
    omega

/-- Move the edit down as far as it goes. -/
def lower (cursor : Cursor) : Cursor :=
  match cursor with
  | ⟨above, .insert lines, .insert more :: below⟩ => lower ⟨above, .insert (lines ++ more), below⟩
  | ⟨above, .delete lines, .delete more :: below⟩ => lower ⟨above, .delete (lines ++ more), below⟩
  | ⟨above, .insert lines, .delete more :: below⟩ =>
    lower ⟨.delete more :: above, .insert lines, below⟩
  | ⟨above, .delete lines, .insert more :: below⟩ =>
    lower ⟨.insert more :: above, .delete lines, below⟩
  | ⟨above, .insert lines, .keep more :: below⟩ =>
    let shared := (stripCommon more lines).1
    if _h : 0 < shared.length ∧ shared.length ≤ more.length then
      lower ⟨keepLast shared above, .insert (lines.drop shared.length ++ shared),
        Script.kept (more.drop shared.length) ++ below⟩
    else cursor
  | _ => cursor
termination_by cursor.below.weight
decreasing_by
  all_goals simp only [Script.weight_cons, Script.weight_append, Edit.lines]
  case _ => omega
  case _ => omega
  case _ => omega
  case _ => omega
  case _ =>
    have := Script.weight_kept_le (more.drop shared.length)
    rw [List.length_drop] at this
    simp only [shared] at *
    omega

end Cursor

/-- Move up to `count` edits of a kind in `below` up and then down, one after the other. Moving an
edit puts no other one of its kind below it. -/
def settleFrom (moves : Edit → Bool) (count : Nat) (above below : Script) : Script :=
  match count, below.span (!moves ·) with
  | 0, _ | _, (_, []) => above.reverse ++ below
  | count + 1, (passed, edit :: rest) =>
    let moved := (Cursor.mk (passed.reverse ++ above) edit rest).raise.lower
    settleFrom moves count (moved.edit :: moved.above) moved.below

/-- The script with its edits of a kind moved. -/
def settledBy (moves : Edit → Bool) (script : Script) : Script :=
  settleFrom moves (script.countP moves) [] script

/-- The script with its deletions and then its insertions moved. -/
def settled (script : Script) : Script :=
  settledBy Edit.isInsertion (settledBy Edit.isDeletion script)

end FortranBindings.LineDiff
