import FortranBindings.Proofs.Text.Tokens

/-!
# Tokens that are made again

A value that is put in for a token is not looked at again. So the token can stand in what a template
is filled in to: the value has it, or the value makes it together with the text around it
(`Template.IsRemade`). Otherwise the token is gone (`Text.mentions_substitute_iff`). Which values
make a token again in some template is told by the value (`Template.exists_isRemade_iff`); a literal
one does not, if it begins with a character that the token does not have
(`Template.not_canRemake_of_head?`).
-/

namespace FortranBindings.Text

namespace Template

variable {text : List Char}

/-! ## Where a text stands -/

theorem occurs_iff_isInfix {token : List Char} : occurs token text = true ↔ token <:+: text := by
  induction text with
  | nil => rw [occurs, List.isEmpty_iff, List.infix_nil]
  | cons c rest ih =>
    rw [occurs, Bool.or_eq_true, ih, List.isPrefixOf_iff_prefix, List.infix_cons_iff]

theorem Straddles.isInfix {a b : List Char} (h : Straddles text a b) : text <:+: a ++ b := by
  obtain ⟨front, back, -, -, rfl, ⟨before, rfl⟩, ⟨after, rfl⟩⟩ := h
  exact ⟨before, after, by simp only [List.append_assoc]⟩

/-- What stands in two texts put together stands in one of them or reaches from one into the
other. -/
theorem isInfix_append_iff {a b : List Char} :
    text <:+: a ++ b ↔ text <:+: a ∨ text <:+: b ∨ Straddles text a b := by
  constructor
  · intro h
    induction a with
    | nil => exact .inr (.inl h)
    | cons c a ih =>
      by_cases hreaches : Straddles text (c :: a) b
      · exact .inr (.inr hreaches)
      · rw [List.cons_append, List.infix_cons_iff, ← List.cons_append,
          prefix_append_iff_of_not_straddles (List.cons_ne_nil c a) hreaches] at h
        rcases h with hstarts | hrest
        · exact .inl hstarts.isInfix
        · rcases ih hrest with ha | hb | hrest
          · exact .inl (ha.trans (List.suffix_cons c a).isInfix)
          · exact .inr (.inl hb)
          · exact .inr (.inr (hrest.of_suffix (List.suffix_cons c a)))
  · rintro (ha | hb | hreaches)
    · exact ha.trans (List.prefix_append a b).isInfix
    · exact hb.trans (List.suffix_append a b).isInfix
    · exact hreaches.isInfix

/-- What stands in a text stands there for a first time. -/
theorem exists_first {token : List Char} (hne : token ≠ []) (h : token <:+: text) :
    ∃ before after, text = before ++ token ++ after ∧ ¬token <:+: before := by
  induction text with
  | nil => exact absurd (List.infix_nil.1 h) hne
  | cons c rest ih =>
    by_cases hstarts : token <+: c :: rest
    · obtain ⟨after, hafter⟩ := hstarts
      exact ⟨[], after, hafter.symm, fun hnil => hne (List.infix_nil.1 hnil)⟩
    · obtain ⟨before, after, rfl, hbefore⟩ := ih ((List.infix_cons_iff.1 h).resolve_left hstarts)
      refine ⟨c :: before, after, rfl, fun hin => ?_⟩
      rcases List.infix_cons_iff.1 hin with hstart | hin
      · have hwhole : c :: before <+: c :: (before ++ token ++ after) :=
          ⟨token ++ after, by simp only [List.cons_append, List.append_assoc]⟩
        exact hstarts (hstart.trans hwhole)
      · exact hbefore hin

/-! ## Filling in a template with one token -/

/-- The text begins with a `$` and has no other one. -/
structure IsToken (token : String) : Prop where
  head?_eq : token.toList.head? = some '$'
  notMem_tail : '$' ∉ token.toList.tail

variable {token value : String}

namespace IsToken

theorem exists_cons (h : IsToken token) : ∃ name, token.toList = '$' :: name ∧ '$' ∉ name := by
  obtain ⟨name, hname⟩ := List.head?_eq_some_iff.1 h.head?_eq
  have htail := h.notMem_tail
  rw [hname] at htail
  exact ⟨name, hname, htail⟩

theorem ne_nil (h : IsToken token) : token.toList ≠ [] := by
  obtain ⟨name, hname, -⟩ := h.exists_cons
  rw [hname]
  exact List.cons_ne_nil _ _

theorem onlyBegins (h : IsToken token) : OnlyBegins '$' [(token, value)] := by
  intro pair hpair
  rw [List.mem_singleton.1 hpair]
  exact h.notMem_tail

theorem expand_eq_self (hnone : ¬token.toList <:+: text) :
    expand [(token, value)] 0 text = text := by
  refine expand_of_not_occurs fun pair hpair _ => ?_
  rwa [List.mem_singleton.1 hpair]

/-- What is put in for a token stands between what is made of the text around it. -/
theorem expand_append (h : IsToken token) (before after : List Char) :
    expand [(token, value)] 0 (before ++ token.toList ++ after) =
      expand [(token, value)] 0 before ++ (value.toList ++ expand [(token, value)] 0 after) := by
  obtain ⟨name, hname, -⟩ := h.exists_cons
  rw [← expand_token hname, List.append_assoc, hname, List.cons_append]
  exact Template.expand_append h.onlyBegins before _ 0 (Nat.zero_le _)

/-- A part of the token at the end of a text stays. -/
theorem suffix_expand (h : IsToken token) {part : List Char} (hdollar : part.head? = some '$')
    (hnone : ¬token.toList <:+: part) (hsuffix : part <:+ text) :
    part <:+ expand [(token, value)] 0 text := by
  obtain ⟨before, rfl⟩ := hsuffix
  obtain ⟨rest, rfl⟩ := List.head?_eq_some_iff.1 hdollar
  refine ⟨expand [(token, value)] 0 before, ?_⟩
  rw [Template.expand_append h.onlyBegins before rest 0 (Nat.zero_le _), expand_eq_self hnone]

end IsToken

/-- A token that begins in a text and goes on behind it does so when the text is filled in. -/
theorem Straddles.expand (h : IsToken token) {after : List Char}
    (hreaches : Straddles token.toList text after) :
    Straddles token.toList (expand [(token, value)] 0 text) after := by
  obtain ⟨front, back, hfront, hback, htoken, hsuffix, hstart⟩ := hreaches
  refine ⟨front, back, hfront, hback, htoken, h.suffix_expand ?_ ?_ hsuffix, hstart⟩
  · have hhead := h.head?_eq
    rwa [htoken, List.head?_append_of_ne_nil _ hfront] at hhead
  · intro hin
    have hlength := hin.length_le
    rw [htoken, List.length_append] at hlength
    exact hback (List.eq_nil_of_length_eq_zero (by omega))

/-! ## Tokens in the result -/

/-- The token stands in a text at a place where it is there again when the value is put in: the
value has it, or it begins in the value and goes on behind it, or it begins in front of the value
and goes on in it. -/
def IsRemade (token value : String) (text : List Char) : Prop :=
  ∃ before after, text = before ++ token.toList ++ after ∧
    (token.toList <:+: value.toList ∨
      Straddles token.toList value.toList (expand [(token, value)] 0 after) ∨
      Straddles token.toList before (value.toList ++ expand [(token, value)] 0 after))

/-- **A token stands in a filled in template** exactly if it is made again. -/
theorem isInfix_expand_iff (h : IsToken token) :
    token.toList <:+: expand [(token, value)] 0 text ↔ IsRemade token value text := by
  constructor
  · -- By the first place of the token: nothing is put in front of it, and less of the text is left.
    intro hin
    induction hlength : text.length using Nat.strong_induction_on generalizing text with
    | _ length ih =>
      subst hlength
      by_cases hoccurs : token.toList <:+: text
      · obtain ⟨before, after, rfl, hbefore⟩ := exists_first h.ne_nil hoccurs
        rw [h.expand_append, IsToken.expand_eq_self hbefore] at hin
        rcases isInfix_append_iff.1 hin with hbefore' | hin | hreaches
        · exact absurd hbefore' hbefore
        · rcases isInfix_append_iff.1 hin with hvalue | hafter | hreaches
          · exact ⟨before, after, rfl, .inl hvalue⟩
          · have hshorter : after.length < (before ++ token.toList ++ after).length := by
              have hpos := List.length_pos_iff.2 h.ne_nil
              simp only [List.length_append]
              omega
            obtain ⟨front, rest, rfl, hremade⟩ := ih _ hshorter hafter rfl
            refine ⟨before ++ token.toList ++ front, rest, by simp only [List.append_assoc], ?_⟩
            exact hremade.imp_right fun hreaches =>
              hreaches.imp_right (Straddles.of_suffix (List.suffix_append _ front))
          · exact ⟨before, after, rfl, .inr (.inl hreaches)⟩
        · exact ⟨before, after, rfl, .inr (.inr hreaches)⟩
      · rw [IsToken.expand_eq_self hoccurs] at hin
        exact absurd hin hoccurs
  · rintro ⟨before, after, rfl, hremade⟩
    rw [h.expand_append, isInfix_append_iff, isInfix_append_iff]
    rcases hremade with hvalue | hreaches | hreaches
    · exact .inr (.inl (.inl hvalue))
    · exact .inr (.inl (.inr (.inr hreaches)))
    · exact .inr (.inr (hreaches.expand h))

/-- The value has the token, ends with a beginning of it, begins with an end of it, or is part of
an end of it. -/
def CanRemake (token value : List Char) : Prop :=
  token <:+: value ∨ ∃ front back, front ≠ [] ∧ back ≠ [] ∧ token = front ++ back ∧
    (front <:+ value ∨ back <+: value ∨ value <+: back)

/-- **Which values make a token again** in some template. -/
theorem exists_isRemade_iff :
    (∃ text, IsRemade token value text) ↔ CanRemake token.toList value.toList := by
  constructor
  · rintro ⟨text, before, after, -, hvalue | hreaches | hreaches⟩
    · exact .inl hvalue
    · obtain ⟨front, back, hfront, hback, htoken, hsuffix, -⟩ := hreaches
      exact .inr ⟨front, back, hfront, hback, htoken, .inl hsuffix⟩
    · obtain ⟨front, back, hfront, hback, htoken, -, hstart⟩ := hreaches
      refine .inr ⟨front, back, hfront, hback, htoken, .inr ?_⟩
      exact List.prefix_or_prefix_of_prefix hstart (List.prefix_append _ _)
  · rintro (hvalue | ⟨front, back, hfront, hback, htoken, hmeets⟩)
    · exact ⟨_, [], [], rfl, .inl hvalue⟩
    · -- An end of the token is shorter than it, so that it stays as it is.
      have hshort : ∀ rest : List Char, rest <:+ back → expand [(token, value)] 0 rest = rest := by
        refine fun rest hrest => IsToken.expand_eq_self fun hin => hfront ?_
        have hlength := hin.length_le.trans hrest.length_le
        rw [htoken, List.length_append] at hlength
        exact List.eq_nil_of_length_eq_zero (by omega)
      rcases hmeets with hsuffix | hstart | ⟨more, hmore⟩
      · refine ⟨_, [], back, rfl, .inr (.inl ?_)⟩
        rw [hshort back List.suffix_rfl]
        exact ⟨front, back, hfront, hback, htoken, hsuffix, List.prefix_rfl⟩
      · refine ⟨_, front, [], rfl, .inr (.inr ?_)⟩
        exact ⟨front, back, hfront, hback, htoken, List.suffix_rfl,
          hstart.trans (List.prefix_append _ _)⟩
      · refine ⟨_, front, more, rfl, .inr (.inr ?_)⟩
        rw [hshort more ⟨value.toList, hmore⟩, hmore]
        exact ⟨front, back, hfront, hback, htoken, List.suffix_rfl, List.prefix_rfl⟩

/-- A literal value makes no token again if it begins with a character that the token does not
have. -/
theorem not_canRemake_of_head? (h : IsToken token) (hvalue : IsLiteral value) {c : Char}
    (hhead : value.toList.head? = some c) (hc : c ∉ token.toList) :
    ¬CanRemake token.toList value.toList := by
  obtain ⟨rest, hrest⟩ := List.head?_eq_some_iff.1 hhead
  have hdollar : '$' ∈ token.toList := List.mem_of_mem_head? h.head?_eq
  rintro (hin | ⟨front, back, hfront, hback, htoken, hsuffix | hstart | hstart⟩)
  · exact hvalue (hin.subset hdollar)
  · have hfirst := h.head?_eq
    rw [htoken, List.head?_append_of_ne_nil _ hfront] at hfirst
    exact hvalue (hsuffix.subset (List.mem_of_mem_head? hfirst))
  · rw [hrest] at hstart
    have hfirst : back.head? = some c := head?_eq_of_starts hback hstart
    exact hc (htoken ▸ List.mem_append_right front (List.mem_of_mem_head? hfirst))
  · have hmem : c ∈ back := hstart.subset (List.mem_of_mem_head? hhead)
    exact hc (htoken ▸ List.mem_append_right front hmem)

end Template

/-- A filled in text mentions the token exactly if it is made again. -/
theorem mentions_substitute_iff {token : String} (h : Template.IsToken token)
    (text value : String) : mentions (substitute text [(token, value)]) token = true ↔
      Template.IsRemade token value text.toList := by
  rw [mentions, substitute, String.toList_ofList, Template.occurs_iff_isInfix]
  exact Template.isInfix_expand_iff h

end FortranBindings.Text
