/-!
# Edit scripts

An edit script leads from one list of lines to another. It is a list of runs of lines, each of them
kept, deleted or inserted. `before` and `after` are the two lists that a script connects.
-/

namespace FortranBindings.LineDiff

/-- A run of lines that two texts share or that only one of them has. -/
inductive Edit
  | keep (lines : List String)
  | delete (lines : List String)
  | insert (lines : List String)
  deriving DecidableEq, Repr

/-- The lines that an edit is about. -/
def Edit.lines : Edit → List String
  | keep lines | delete lines | insert lines => lines

/-- Does an edit delete lines? -/
def Edit.isDeletion : Edit → Bool
  | delete _ => true
  | _ => false

/-- Does an edit insert lines? -/
def Edit.isInsertion : Edit → Bool
  | insert _ => true
  | _ => false

/-- A script of edits, from the first line to the last. -/
abbrev Script := List Edit

namespace Script

/-- The lines that a script starts from. -/
def before : Script → List String
  | [] => []
  | .keep lines :: rest | .delete lines :: rest => lines ++ before rest
  | .insert _ :: rest => before rest

/-- The lines that a script leads to. -/
def after : Script → List String
  | [] => []
  | .keep lines :: rest | .insert lines :: rest => lines ++ after rest
  | .delete _ :: rest => after rest

/-- The number of lines and edits of a script. -/
def weight : Script → Nat
  | [] => 0
  | edit :: rest => edit.lines.length + 1 + weight rest

/-- Does a script keep every line? -/
def isIdentity (script : Script) : Bool :=
  script.all fun
    | .keep _ => true
    | _ => false

/-- The script that keeps some lines, without an edit if there are none. -/
def kept (lines : List String) : Script :=
  if lines = [] then [] else [.keep lines]

/-- The script that goes from a list of lines to another without sharing any. -/
def replacement : List String → List String → Script
  | [], [] => []
  | old, [] => [.delete old]
  | [], new => [.insert new]
  | old, new => [.delete old, .insert new]

@[simp] theorem before_kept (lines : List String) : before (kept lines) = lines := by
  unfold kept; split <;> simp_all [before]

@[simp] theorem after_kept (lines : List String) : after (kept lines) = lines := by
  unfold kept; split <;> simp_all [after]

@[simp] theorem before_replacement (old new : List String) :
    before (replacement old new) = old := by
  cases old <;> cases new <;> simp [replacement, before]

@[simp] theorem after_replacement (old new : List String) : after (replacement old new) = new := by
  cases old <;> cases new <;> simp [replacement, after]

@[simp] theorem before_append (s t : Script) : before (s ++ t) = before s ++ before t := by
  induction s with
  | nil => rfl
  | cons edit rest ih => cases edit <;> simp [before, ih]

@[simp] theorem after_append (s t : Script) : after (s ++ t) = after s ++ after t := by
  induction s with
  | nil => rfl
  | cons edit rest ih => cases edit <;> simp [after, ih]

@[simp] theorem weight_cons (edit : Edit) (script : Script) :
    weight (edit :: script) = edit.lines.length + 1 + script.weight := rfl

@[simp] theorem weight_append (s t : Script) : weight (s ++ t) = s.weight + t.weight := by
  induction s with
  | nil => simp [weight]
  | cons edit rest ih => simp [ih, Nat.add_assoc]

theorem weight_kept_le (lines : List String) : weight (kept lines) ≤ lines.length + 1 := by
  unfold kept; split <;> simp [weight, Edit.lines]

end Script

/-- The longest common start of two lists, and what follows it in each. -/
def stripCommon : List String → List String → List String × List String × List String
  | a :: as, b :: bs =>
    if a = b then
      let (common, as', bs') := stripCommon as bs
      (a :: common, as', bs')
    else ([], a :: as, b :: bs)
  | as, bs => ([], as, bs)

/-- A list is its common start with another followed by its rest. -/
theorem append_stripCommon (as bs : List String) :
    (stripCommon as bs).1 ++ (stripCommon as bs).2.1 = as ∧
      (stripCommon as bs).1 ++ (stripCommon as bs).2.2 = bs := by
  fun_induction stripCommon as bs with
  | case1 a as bs common as' bs' h ih => simpa [h] using ih
  | case2 => simp
  | case3 => simp

/-- The longest common end of two lists. -/
def commonEnd (as bs : List String) : List String :=
  (stripCommon as.reverse bs.reverse).1.reverse

/-- Two lists without the start and the end that they share. -/
structure Trimmed where
  start : List String
  old : List String
  new : List String
  finish : List String

namespace Trimmed

/-- Take the common start off two lists and then the common end. -/
def of (old new : List String) : Trimmed :=
  let (start, old, new) := stripCommon old new
  let (finish, old, new) := stripCommon old.reverse new.reverse
  ⟨start, old.reverse, new.reverse, finish.reverse⟩

/-- The parts put together again are the two lists. -/
theorem append_of (old new : List String) :
    (of old new).start ++ (of old new).old ++ (of old new).finish = old ∧
      (of old new).start ++ (of old new).new ++ (of old new).finish = new := by
  have e₁ := append_stripCommon old new
  have e₂ := append_stripCommon (stripCommon old new).2.1.reverse (stripCommon old new).2.2.reverse
  have f₁ := congrArg List.reverse e₂.1
  have f₂ := congrArg List.reverse e₂.2
  simp only [List.reverse_append, List.reverse_reverse] at f₁ f₂
  refine ⟨?_, ?_⟩ <;> simp [of, f₁, f₂, e₁]

/-- What remains is not longer than what was there. -/
theorem length_of_le (old new : List String) :
    (of old new).old.length + (of old new).new.length ≤ old.length + new.length := by
  have h := append_of old new
  have h₁ := congrArg List.length h.1
  have h₂ := congrArg List.length h.2
  simp only [List.length_append] at h₁ h₂
  omega

end Trimmed

end FortranBindings.LineDiff
