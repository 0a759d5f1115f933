import FortranBindings.Proofs.Text.Rewriting

/-!
# A token in a template

Tokens begin with a `$` and have no other `$` in them. So where a `$` stands in a template, what is
in front of it is filled in by itself (`Text.substitute_append`). The last of some tokens is
replaced wherever it stands, if none of the others is a start of it or starts with it
(`Text.substitute_last`).
-/

namespace FortranBindings.Text

namespace Template

variable {replacements : Replacements} {text rest : List Char} {d : Char}

/-- The character may only begin a token. -/
def OnlyBegins (d : Char) (replacements : Replacements) : Prop :=
  ∀ pair ∈ replacements, d ∉ pair.1.toList.tail

instance (d : Char) (replacements : Replacements) : Decidable (OnlyBegins d replacements) :=
  inferInstanceAs (Decidable (∀ pair ∈ replacements, _))

/-- What is in front of a character that no token has in it is filled in by itself. -/
theorem expand_append (h : OnlyBegins d replacements) (text rest : List Char) (skip : Nat)
    (hskip : skip ≤ text.length) :
    expand replacements skip (text ++ d :: rest) =
      expand replacements skip text ++ expand replacements 0 (d :: rest) :=
  expand_append_of_not_straddles (fun pair hpair => not_straddles_cons (h pair hpair)) hskip

/-- Neither token is a start of the other. -/
def Apart (token other : String) : Prop :=
  ¬token.toList <+: other.toList ∧ ¬other.toList <+: token.toList

instance (token other : String) : Decidable (Apart token other) :=
  inferInstanceAs (Decidable (_ ∧ _))

/-- Where the last token stands no other is found. -/
theorem longestMatch?_last {token : String} (htoken : token ≠ "")
    (h : ∀ pair ∈ replacements, Apart pair.1 token) (value : String) (rest : List Char) :
    longestMatch? (replacements ++ [(token, value)]) (token.toList ++ rest) =
      some (token, value) := by
  refine longestMatch?_eq_some_iff.2 ⟨?_, List.prefix_append _ _, fun pair hpair hstarts => ?_, ?_⟩
  · exact fun hnil => htoken (String.toList_inj.1 hnil)
  · rcases List.mem_append.1 hpair with hpair | hpair
    · obtain ⟨hother, htoken⟩ := h pair hpair
      rcases List.prefix_or_prefix_of_prefix hstarts (List.prefix_append token.toList rest) with
        hbegins | hbegins
      · exact absurd hbegins hother
      · exact absurd hbegins htoken
    · rw [List.mem_singleton.1 hpair]
  · rw [findRev?_concat, if_pos rfl]

/-- Where the last token stands its value is put in. -/
theorem expand_last {token : String} {name : List Char} (htoken : token.toList = '$' :: name)
    (h : ∀ pair ∈ replacements, Apart pair.1 token) (value : String) (rest : List Char) :
    expand (replacements ++ [(token, value)]) 0 (token.toList ++ rest) =
      value.toList ++ expand (replacements ++ [(token, value)]) 0 rest := by
  have hne : token ≠ "" := by
    rintro rfl
    cases htoken
  have hmatch := longestMatch?_last hne h value rest
  rw [htoken, List.cons_append] at hmatch ⊢
  rw [expand, if_pos rfl, hmatch]
  dsimp only
  rw [htoken, List.length_cons, Nat.add_sub_cancel, expand_skip]

end Template

variable {replacements : Replacements}

/-- A text behind a character that no token has in it is filled in by itself, and so is what is in
front of it. -/
theorem substitute_append {d : Char} (h : Template.OnlyBegins d replacements)
    {before after : String} {rest : List Char} (hafter : after.toList = d :: rest) :
    substitute (before ++ after) replacements =
      substitute before replacements ++ substitute after replacements := by
  refine String.toList_inj.1 ?_
  simp only [substitute, String.toList_append, String.toList_ofList, hafter]
  exact Template.expand_append h _ _ 0 (Nat.zero_le _)

/-- Literal text stays as it is, and what comes behind it is filled in by itself. -/
theorem substitute_append_of_isLiteral {before : String} (h : IsLiteral before) (after : String) :
    substitute (before ++ after) replacements = before ++ substitute after replacements := by
  refine String.toList_inj.1 ?_
  simp only [substitute, String.toList_append, String.toList_ofList]
  exact Template.expand_append_of_notMem h after.toList

theorem substitute_of_isLiteral {text : String} (h : IsLiteral text) :
    substitute text replacements = text := by
  rw [substitute, Template.expand_of_notMem h, String.ofList_toList]

/-- **The last token** is replaced wherever it stands. -/
theorem substitute_last {token : String} {name : List Char} (htoken : token.toList = '$' :: name)
    (h : ∀ pair ∈ replacements, Template.Apart pair.1 token) (value : String)
    (hbegins : Template.OnlyBegins '$' (replacements ++ [(token, value)]))
    (before after : String) :
    substitute (before ++ token ++ after) (replacements ++ [(token, value)]) =
      substitute before (replacements ++ [(token, value)]) ++ value ++
        substitute after (replacements ++ [(token, value)]) := by
  have hstart : (token ++ after).toList = '$' :: (name ++ after.toList) := by
    rw [String.toList_append, htoken, List.cons_append]
  have hvalue : substitute (token ++ after) (replacements ++ [(token, value)]) =
      value ++ substitute after (replacements ++ [(token, value)]) := by
    refine String.toList_inj.1 ?_
    simp only [substitute, String.toList_append, String.toList_ofList]
    exact Template.expand_last htoken h value after.toList
  rw [String.append_assoc, substitute_append hbegins hstart, hvalue, String.append_assoc]

end FortranBindings.Text
