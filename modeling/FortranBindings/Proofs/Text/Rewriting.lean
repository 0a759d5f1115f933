import FortranBindings.Proofs.Text.Filling

/-!
# Filling in as rewriting

A template is read from left to right as a row of pieces: at a `$` the longest token that stands
there is a piece, and every other character is one (`Template.Reads`). There is exactly one way to
read a template, and filling it in puts values in place of the tokens among its pieces
(`Template.exists_reads`, `Template.Reads.expand_eq`). Which pieces there are does not go by the
values, so that no value is looked at again (`Template.Reads.revalued`).

What follows from this for all templates is put together in `substitute_exact`.
-/

namespace FortranBindings.Text

namespace Template

variable {replacements others : Replacements} {text rest : List Char} {pair other : String × String}

/-! ## Pieces -/

/-- A piece of a template. -/
inductive Piece
  /-- A character that belongs to no token. -/
  | copied (char : Char)
  /-- A token, and the value for it. -/
  | replaced (token value : String)
  deriving DecidableEq

namespace Piece

/-- The characters of a template that the piece stands for. -/
def source : Piece → List Char
  | copied char => [char]
  | replaced token _ => token.toList

/-- What is made of the piece. -/
def target : Piece → List Char
  | copied char => [char]
  | replaced _ value => value.toList

/-- The piece with another value for its token. -/
def revalue (value : String × String → String) : Piece → Piece
  | copied char => copied char
  | replaced token old => replaced token (value (token, old))

end Piece

/-- The pieces of a template, from left to right: at a `$` the longest token if any stands there,
and the character otherwise. -/
inductive Reads (replacements : Replacements) : List Char → List Piece → Prop
  | nil : Reads replacements [] []
  | copied {c : Char} {rest : List Char} {pieces : List Piece}
    (hnone : c = '$' → NoneStarts replacements (c :: rest)) (h : Reads replacements rest pieces) :
    Reads replacements (c :: rest) (.copied c :: pieces)
  | replaced {token value : String} {rest : List Char} {pieces : List Piece}
    (hdollar : token.toList.head? = some '$')
    (hlongest : IsLongest replacements (token.toList ++ rest) (token, value))
    (h : Reads replacements rest pieces) :
    Reads replacements (token.toList ++ rest) (.replaced token value :: pieces)

/-- Filling in a template makes of each piece what is made of it. -/
theorem Reads.expand_eq {pieces : List Piece} (h : Reads replacements text pieces) :
    expand replacements 0 text = pieces.flatMap Piece.target := by
  induction h with
  | nil => rfl
  | @copied c rest pieces hnone h ih =>
    rw [List.flatMap_cons, Piece.target, List.singleton_append, ← ih, expand]
    split
    · next hc => rw [longestMatch?_eq_none_iff.2 (hnone hc)]
    · rfl
  | @replaced token value rest pieces hdollar hlongest h ih =>
    obtain ⟨name, hname⟩ := List.head?_eq_some_iff.1 hdollar
    have hmatch := longestMatch?_eq_some_iff.2 hlongest
    rw [List.flatMap_cons, Piece.target, ← ih]
    rw [hname, List.cons_append] at hmatch ⊢
    rw [expand, if_pos rfl, hmatch]
    dsimp only
    rw [hname, List.length_cons, Nat.add_sub_cancel, expand_skip]

/-- The pieces make up the template. -/
theorem Reads.eq_flatMap_source {pieces : List Piece} (h : Reads replacements text pieces) :
    text = pieces.flatMap Piece.source := by
  induction h with
  | nil => rfl
  | copied hnone h ih => rw [List.flatMap_cons, Piece.source, List.singleton_append, ← ih]
  | replaced hdollar hlongest h ih => rw [List.flatMap_cons, Piece.source, ← ih]

/-- Every template can be read. -/
theorem exists_reads (replacements : Replacements) (text : List Char) :
    ∃ pieces, Reads replacements text pieces := by
  -- By the length of the template, since a token may be longer than one character.
  induction hlength : text.length using Nat.strong_induction_on generalizing text with
  | _ length ih =>
    subst hlength
    cases text with
    | nil => exact ⟨[], .nil⟩
    | cons c rest =>
      by_cases hnone : c = '$' → NoneStarts replacements (c :: rest)
      · obtain ⟨pieces, hpieces⟩ := ih rest.length (Nat.lt_succ_self _) rest rfl
        exact ⟨_, .copied hnone hpieces⟩
      · obtain ⟨rfl, hstarts⟩ := Classical.not_imp.1 hnone
        rw [← longestMatch?_eq_none_iff] at hstarts
        obtain ⟨⟨token, value⟩, hfound⟩ := Option.ne_none_iff_exists'.1 hstarts
        have hlongest := isLongest_of_longestMatch? hfound
        have hdollar := hlongest.head?_eq
        obtain ⟨after, hafter⟩ := hlongest.starts
        have hshorter : after.length < ('$' :: rest).length := by
          rw [← hafter, List.length_append]
          exact Nat.lt_add_of_pos_left (List.length_pos_iff.2 hlongest.ne_nil)
        obtain ⟨pieces, hpieces⟩ := ih after.length hshorter after rfl
        rw [← hafter] at hlongest ⊢
        exact ⟨_, .replaced hdollar hlongest hpieces⟩

/-- Where no token stands the character is copied. -/
theorem Reads.exists_eq_copied {c : Char} {pieces : List Piece}
    (h : Reads replacements (c :: rest) pieces)
    (hnone : c = '$' → NoneStarts replacements (c :: rest)) :
    ∃ more, pieces = .copied c :: more ∧ Reads replacements rest more := by
  generalize htext : c :: rest = text at h
  cases h with
  | nil => cases htext
  | copied _ h =>
    cases htext
    exact ⟨_, rfl, h⟩
  | replaced hdollar hlongest h =>
    rw [← htext] at hlongest
    have hc : c = '$' := Option.some.inj (hlongest.head?_eq.symm.trans hdollar)
    exact absurd hlongest (hnone hc).not_isLongest

/-- Where a token stands the longest one is replaced. -/
theorem Reads.exists_eq_replaced {token value : String} {pieces : List Piece}
    (h : Reads replacements (token.toList ++ rest) pieces)
    (hdollar : token.toList.head? = some '$')
    (hlongest : IsLongest replacements (token.toList ++ rest) (token, value)) :
    ∃ more, pieces = .replaced token value :: more ∧ Reads replacements rest more := by
  generalize htext : token.toList ++ rest = text at h
  cases h with
  | nil => exact absurd (List.append_eq_nil_iff.1 htext).1 hlongest.ne_nil
  | copied hnone h =>
    rw [htext] at hlongest
    have hc := Option.some.inj (hlongest.head?_eq.symm.trans hdollar)
    exact absurd hlongest (hnone hc).not_isLongest
  | replaced _ hlongest' h =>
    rw [htext] at hlongest
    cases hlongest.unique hlongest'
    obtain rfl := List.append_cancel_left htext
    exact ⟨_, rfl, h⟩

/-- There is one way to read a template only. -/
theorem Reads.unique {pieces pieces' : List Piece} (h : Reads replacements text pieces)
    (h' : Reads replacements text pieces') : pieces' = pieces := by
  induction h generalizing pieces' with
  | nil =>
    generalize htext : ([] : List Char) = text at h'
    cases h' with
    | nil => rfl
    | copied => cases htext
    | replaced _ hlongest => exact absurd (List.append_eq_nil_iff.1 htext.symm).1 hlongest.ne_nil
  | copied hnone h ih =>
    obtain ⟨more, rfl, hmore⟩ := h'.exists_eq_copied hnone
    rw [ih hmore]
  | replaced hdollar hlongest h ih =>
    obtain ⟨more, rfl, hmore⟩ := h'.exists_eq_replaced hdollar hlongest
    rw [ih hmore]

/-! ## Other lists of tokens -/

/-- Where tokens stand does not depend on their values. -/
theorem isLongest_revalued (value : String × String → String)
    (h : IsLongest replacements text pair) :
    IsLongest (replacements.map fun pair => (pair.1, value pair)) text (pair.1, value pair) where
  ne_nil := h.ne_nil
  starts := h.starts
  length_le := by
    intro other hother
    obtain ⟨old, hold, rfl⟩ := List.mem_map.1 hother
    exact h.length_le old hold
  last := by
    have hlast := h.last
    rw [List.findRev?_eq_find?_reverse] at hlast ⊢
    rw [← List.map_reverse, List.find?_map]
    simp only [Function.comp_def, hlast, Option.map_some]

/-- **Values are not looked at again**: the pieces of a template are the same for other values, put
in place of the old ones. -/
theorem Reads.revalued {pieces : List Piece} (value : String × String → String)
    (h : Reads replacements text pieces) :
    Reads (replacements.map fun pair => (pair.1, value pair)) text
      (pieces.map (Piece.revalue value)) := by
  induction h with
  | nil => exact .nil
  | copied hnone h ih =>
    refine .copied (fun hc other hother => ?_) ih
    obtain ⟨old, hold, rfl⟩ := List.mem_map.1 hother
    exact hnone hc old hold
  | replaced hdollar hlongest h ih => exact .replaced hdollar (isLongest_revalued value hlongest) ih

/-- What is found at a `$` decides what is made of a text. -/
theorem expand_congr (h : ∀ rest, longestMatch? replacements ('$' :: rest) =
    longestMatch? others ('$' :: rest)) (skip : Nat) (text : List Char) :
    expand replacements skip text = expand others skip text := by
  induction text generalizing skip with
  | nil => simp only [expand]
  | cons c rest ih =>
    cases skip with
    | succ skip => exact ih skip
    | zero =>
      rw [expand, expand]
      split
      · next hc =>
        subst hc
        rw [h]
        split
        · rw [ih]
        · rw [ih]
      · rw [ih]

/-! ## Texts put together -/

/-- The text begins in `a` and ends in `b`, where `b` follows `a`. -/
def Straddles (text a b : List Char) : Prop :=
  ∃ front back, front ≠ [] ∧ back ≠ [] ∧ text = front ++ back ∧ front <:+ a ∧ back <+: b

theorem Straddles.of_suffix {a a' b : List Char} (ha : a <:+ a') (h : Straddles text a b) :
    Straddles text a' b := by
  obtain ⟨front, back, hfront, hback, htext, hsuffix, hstart⟩ := h
  exact ⟨front, back, hfront, hback, htext, hsuffix.trans ha, hstart⟩

/-- What has no `c` behind its first character does not reach into what starts with `c`. -/
theorem not_straddles_cons {c : Char} {a b : List Char} (h : c ∉ text.tail) :
    ¬Straddles text a (c :: b) := by
  rintro ⟨front, back, hfront, hback, rfl, -, hstart⟩
  obtain ⟨d, front, rfl⟩ := List.exists_cons_of_ne_nil hfront
  refine h (List.mem_append_right front (List.mem_of_mem_head? ?_))
  exact head?_eq_of_starts hback hstart

/-- A text that does not reach into what follows stands in front of it. -/
theorem prefix_append_iff_of_not_straddles {a b : List Char} (ha : a ≠ [])
    (h : ¬Straddles text a b) : text <+: a ++ b ↔ text <+: a := by
  refine ⟨fun hstarts => ?_, fun hstarts => hstarts.trans (List.prefix_append a b)⟩
  obtain hinside | ⟨back, rfl⟩ :=
    List.prefix_or_prefix_of_prefix hstarts (List.prefix_append a b)
  · exact hinside
  · by_cases hback : back = []
    · rw [hback, List.append_nil]
    · have hstart : back <+: b := (List.prefix_append_right_inj a).1 hstarts
      exact absurd ⟨a, back, ha, hback, rfl, List.suffix_rfl, hstart⟩ h

/-- What is filled in does not depend on what follows, and does not reach into it, if no token
does. -/
theorem expand_append_of_not_straddles {a b : List Char}
    (h : ∀ pair ∈ replacements, ¬Straddles pair.1.toList a b) {skip : Nat}
    (hskip : skip ≤ a.length) :
    expand replacements skip (a ++ b) = expand replacements skip a ++ expand replacements 0 b := by
  induction a generalizing skip with
  | nil =>
    obtain rfl := Nat.le_zero.1 hskip
    rfl
  | cons c a ih =>
    have hrest : ∀ pair ∈ replacements, ¬Straddles pair.1.toList a b := fun pair hpair hreaches =>
      h pair hpair (hreaches.of_suffix (List.suffix_cons c a))
    have hmatch : longestMatch? replacements (c :: a ++ b) =
        longestMatch? replacements (c :: a) := by
      unfold longestMatch?
      refine List.foldl_ext _ _ _ fun best pair hpair => ?_
      simp only [prefix_append_iff_of_not_straddles (List.cons_ne_nil c a) (h pair hpair)]
    cases skip with
    | succ skip => exact ih hrest (Nat.le_of_succ_le_succ hskip)
    | zero =>
      rw [List.cons_append] at hmatch ⊢
      rw [expand, expand, hmatch]
      split
      · cases hfound : longestMatch? replacements (c :: a) with
        | none =>
          dsimp only
          rw [ih hrest (Nat.zero_le _), List.cons_append]
        | some pair =>
          have hlength := (isLongest_of_longestMatch? hfound).starts.length_le
          rw [List.length_cons] at hlength
          dsimp only
          rw [ih hrest (Nat.sub_le_of_le_add hlength), List.append_assoc]
      · rw [ih hrest (Nat.zero_le _), List.cons_append]

/-- A text in which no token stands that begins with a `$` stays as it is. -/
theorem expand_of_not_occurs
    (h : ∀ pair ∈ replacements, pair.1.toList.head? = some '$' → ¬pair.1.toList <:+: text) :
    expand replacements 0 text = text := by
  induction text with
  | nil => rfl
  | cons c rest ih =>
    have hrest := ih fun pair hpair hdollar hoccurs =>
      h pair hpair hdollar (hoccurs.trans (List.suffix_cons c rest).isInfix)
    rw [expand, hrest]
    split
    · next hc =>
      have hnone : NoneStarts replacements (c :: rest) := fun pair hpair hne hstarts =>
        h pair hpair (hc ▸ head?_eq_of_starts hne hstarts) hstarts.isInfix
      rw [longestMatch?_eq_none_iff.2 hnone]
    · rfl

end Template

/-- **Filling in a template** rewrites it in one go. A template is read in one way only, as pieces
that make it up; what is put in place of the tokens among them goes by the values alone, which are
not looked at again. Tokens that are empty or do not begin with a `$` have no effect, nor does the
order of tokens that all differ. A template in which no token stands stays as it is, and two texts
are filled in one by one where no token stands across them. -/
theorem substitute_exact (replacements : Replacements) :
    (∀ template : String, ∃ pieces,
      (∀ other, Template.Reads replacements template.toList other ↔ other = pieces) ∧
        template.toList = pieces.flatMap Template.Piece.source ∧
        substitute template replacements =
          String.ofList (pieces.flatMap Template.Piece.target) ∧
        ∀ value, substitute template (replacements.map fun pair => (pair.1, value pair)) =
          String.ofList ((pieces.map (Template.Piece.revalue value)).flatMap
            Template.Piece.target)) ∧
    (∀ template : String,
      substitute template (replacements.filter fun pair => pair.1.toList.head? = some '$') =
        substitute template replacements) ∧
    (∀ others, replacements.Perm others → (replacements.map (·.1)).Nodup →
      ∀ template : String, substitute template others = substitute template replacements) ∧
    (∀ template : String,
      (∀ pair ∈ replacements, pair.1 ≠ "" → ¬pair.1.toList <:+: template.toList) →
        substitute template replacements = template) ∧
    ∀ before after : String,
      (∀ pair ∈ replacements, ¬Template.Straddles pair.1.toList before.toList after.toList) →
        substitute (before ++ after) replacements =
          substitute before replacements ++ substitute after replacements := by
  refine ⟨fun template => ?_, fun template => ?_, fun others hperm hnodup template => ?_,
    fun template hnone => ?_, fun before after hreaches => ?_⟩
  · obtain ⟨pieces, hpieces⟩ := Template.exists_reads replacements template.toList
    refine ⟨pieces, fun other => ⟨hpieces.unique, fun h => h ▸ hpieces⟩,
      hpieces.eq_flatMap_source, ?_, fun value => ?_⟩
    · rw [substitute, hpieces.expand_eq]
    · rw [substitute, (hpieces.revalued value).expand_eq]
  · rw [substitute, substitute, Template.expand_congr Template.longestMatch?_filter]
  · rw [substitute, substitute, Template.expand_congr fun rest =>
      Template.longestMatch?_of_perm hperm hnodup ('$' :: rest)]
  · have hdollar : ∀ pair ∈ replacements, pair.1.toList.head? = some '$' →
        ¬pair.1.toList <:+: template.toList := by
      refine fun pair hpair hdollar => hnone pair hpair fun hempty => ?_
      rw [hempty] at hdollar
      cases hdollar
    rw [substitute, Template.expand_of_not_occurs hdollar, String.ofList_toList]
  · refine String.toList_inj.1 ?_
    simp only [substitute, String.toList_append, String.toList_ofList]
    exact Template.expand_append_of_not_straddles hreaches (Nat.zero_le _)

/-- The value `$input` that is put in is not taken for the token, and a longer token wins over a
shorter one. -/
theorem substitute_exact_of_cast :
    let replacements := [("$1", "$input"), ("$1_ltype", "Foo *"), ("$input", "farg1"), ("=", "")]
    substitute "$1 = ($1_ltype)$input;" replacements.reverse = "$input = (Foo *)farg1;" ∧
      substitute "cost: $$5" replacements = "cost: $$5" ∧
      substitute ("$1 = " ++ "$input;") replacements =
        substitute "$1 = " replacements ++ substitute "$input;" replacements := by
  intro replacements
  obtain ⟨-, -, horder, hnone, happend⟩ := substitute_exact replacements
  refine ⟨?_, hnone _ (by decide +kernel), happend _ _ fun pair hpair => ?_⟩
  · rw [horder _ (List.reverse_perm _).symm (by decide)]
    decide +kernel
  · have hbegins : '$' ∉ pair.1.toList.tail := by
      revert pair
      decide
    exact Template.not_straddles_cons hbegins

end FortranBindings.Text
