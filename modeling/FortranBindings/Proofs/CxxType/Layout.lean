import FortranBindings.Proofs.CxxType.Brackets
import FortranBindings.Proofs.CxxType.Spacing

/-!
# Layout of a type spelling

A spelling is laid out as pieces, each a token with the whitespace in front of it. `IsLayout` says
that the pieces are what scanning finds in front of the rest of a text: words are balanced, and no
token goes on behind its end. Scanning takes up the pieces one by one (`Token.scan_laidOut`), and
every text is laid out up to its end or up to something that ends the scan
(`hasLayout_ofList`, `Halts`).
-/

namespace FortranBindings.CxxType

/-- The text of a token. -/
def Token.text : Token → String
  | word text => text
  | star => "*"
  | amp => "&"
  | ampAmp => "&&"

/-- A token with the whitespace in front of it. -/
structure Piece where
  gap : String
  token : Token

/-- What the piece takes up of a text. -/
def Piece.text (piece : Piece) : String := piece.gap ++ piece.token.text

/-- The text that the pieces make up. -/
def laidOut (pieces : List Piece) : String := String.join (pieces.map Piece.text)

/-- The text is ASCII whitespace, or empty. -/
def IsGap (text : String) : Prop := ∀ c ∈ text.toList, Token.isSpace c = true

/-- Words are balanced. -/
def Token.IsProper : Token → Prop
  | word text => IsBalancedWord text.toList
  | star | amp | ampAmp => True

/-- The token does not go on in the text behind it: a word is not followed by a character that could
stand in it there, and `&` is not followed by another `&`. -/
def Token.EndsBefore (rest : String) : Token → Prop
  | word _ => ∀ c ∈ rest.toList.head?, isWordChar c = false ∧ c ≠ '<'
  | amp => rest.toList.head? ≠ some '&'
  | star | ampAmp => True

/-- The pieces are the tokens in front of the rest of a text, with the whitespace between them. -/
def IsLayout (rest : String) : List Piece → Prop
  | [] => True
  | piece :: pieces =>
    IsGap piece.gap ∧ piece.token.IsProper ∧ piece.token.EndsBefore (laidOut pieces ++ rest) ∧
      IsLayout rest pieces

/-- The spelling is laid out as the pieces and a gap, in front of the rest of it. -/
structure IsLaidOut (spelling : String) (pieces : List Piece) (gap rest : String) : Prop where
  eq_append : spelling = laidOut pieces ++ (gap ++ rest)
  isLayout : IsLayout (gap ++ rest) pieces
  isGap : IsGap gap

/-- The character starts a token or stands between tokens. -/
def IsOutsideWords (c : Char) : Prop :=
  Token.isSpace c = true ∨ c = '*' ∨ c = '&' ∨ Token.isWordChar c = true

/-- The text ends a scan: it is empty, begins with a word that is not closed, or begins with a
character that may not stand there. -/
def Halts (rest : String) : Prop :=
  rest = "" ∨ IsUnclosedWord rest.toList ∨ ∃ c ∈ rest.toList.head?, ¬IsOutsideWords c

variable {rest gap : String} {piece : Piece} {pieces : List Piece} {c : Char} {text : List Char}

-- The instance is named here and below: `Char` is finite, and all of it could be gone through.
instance : Decidable (IsGap gap) := List.decidableBAll _ gap.toList

instance : DecidablePred Token.IsProper
  | .word text => inferInstanceAs (Decidable (IsBalancedWord text.toList))
  | .star | .amp | .ampAmp => isTrue trivial

instance : DecidablePred (Token.EndsBefore rest)
  | .word _ => Option.decidableForallMem rest.toList.head?
  | .amp => inferInstanceAs (Decidable (rest.toList.head? ≠ some '&'))
  | .star | .ampAmp => isTrue trivial

instance decidableIsLayout : (pieces : List Piece) → Decidable (IsLayout rest pieces)
  | [] => isTrue trivial
  | _ :: pieces =>
    have := decidableIsLayout pieces
    inferInstanceAs (Decidable (_ ∧ _ ∧ _ ∧ _))

instance {spelling : String} : Decidable (IsLaidOut spelling pieces gap rest) :=
  decidable_of_iff (spelling = laidOut pieces ++ (gap ++ rest) ∧ IsLayout (gap ++ rest) pieces ∧
    IsGap gap) ⟨fun h => ⟨h.1, h.2.1, h.2.2⟩, fun h => ⟨h.1, h.2, h.3⟩⟩

instance : DecidablePred IsOutsideWords := fun _ => inferInstanceAs (Decidable (_ ∨ _ ∨ _ ∨ _))

@[simp] theorem laidOut_nil : laidOut [] = "" := rfl

@[simp] theorem laidOut_cons : laidOut (piece :: pieces) = piece.text ++ laidOut pieces := by
  simp [laidOut]

/-! ## Scanning the pieces -/

namespace Token

theorem scan_append_of_isGap (h : IsGap gap) (text : List Char) :
    scan (gap.toList ++ text) = scan text := by
  unfold IsGap at h
  generalize gap.toList = chars at h
  induction chars with
  | nil => rfl
  | cons c chars ih =>
    obtain ⟨hc, hchars⟩ := List.forall_mem_cons.1 h
    rw [List.cons_append, scan_space hc, ih hchars]

theorem bracketsAfter_zero_eq_none_iff :
    bracketsAfter 0 c = none ↔ isWordChar c = false ∧ c ≠ '<' := by
  rw [Option.eq_none_iff_forall_ne_some]
  simp only [ne_eq, bracketsAfter_eq_some_iff]
  by_cases hopen : c = '<'
  · simp [hopen]
  · by_cases hclose : c = '>'
    · subst hclose
      simp
      decide
    · simp [hopen, hclose]

theorem endsBefore_word_iff {name : String} :
    (word name).EndsBefore rest ↔ StopsWord rest.toList :=
  forall₂_congr fun _ _ => bracketsAfter_zero_eq_none_iff.symm

/-- A token is scanned where it does not go on. -/
theorem scan_append_text {token : Token} (hproper : token.IsProper)
    (hends : token.EndsBefore rest) :
    scan (token.text.toList ++ rest.toList) = (scan rest.toList).map (token :: ·) := by
  cases token with
  | word text =>
    have hscan := scan_append_of_isWord (isWord_iff.2 hproper) (endsBefore_word_iff.1 hends)
    rwa [String.ofList_toList] at hscan
  | star => exact scan_star _
  | amp => exact scan_amp hends
  | ampAmp => exact scan_ampAmp _

theorem scan_of_isUnclosedWord (h : IsUnclosedWord text) :
    scan text = .error .unbalancedBrackets := by
  obtain ⟨c, hhead, -⟩ := h.1.begins
  obtain ⟨tail, rfl⟩ := List.head?_eq_some_iff.1 hhead
  obtain ⟨hc, hscan⟩ := isUnclosedWord_cons_iff.1 h
  rw [scan_cons_of_isWordChar hc, hscan]

theorem scan_of_not_isOutsideWords (hhead : text.head? = some c) (hc : ¬IsOutsideWords c) :
    scan text = .error (.unexpected c) := by
  obtain ⟨tail, rfl⟩ := List.head?_eq_some_iff.1 hhead
  obtain ⟨hspace, hstar, hamp, hword⟩ := by simpa only [IsOutsideWords, not_or] using hc
  rw [scan]
  · rw [if_neg hspace, if_neg hword]
  · exact hstar
  · exact fun _ h => absurd h hamp
  · exact hamp

/-- **Scanning takes up the pieces** of a layout one by one. -/
theorem scan_laidOut (h : IsLayout rest pieces) :
    scan (laidOut pieces ++ rest).toList =
      (scan rest.toList).map (pieces.map Piece.token ++ ·) := by
  induction pieces with
  | nil =>
    rw [laidOut_nil, String.empty_append]
    cases scan rest.toList <;> rfl
  | cons piece pieces ih =>
    obtain ⟨hgap, hproper, hends, hrest⟩ := h
    have hsplit : (laidOut (piece :: pieces) ++ rest).toList = piece.gap.toList ++
        (piece.token.text.toList ++ (laidOut pieces ++ rest).toList) := by
      simp [Piece.text, String.append_assoc]
    rw [hsplit, scan_append_of_isGap hgap, scan_append_text hproper hends, ih hrest]
    cases scan rest.toList <;> rfl

end Token

/-! ## Laying out a text -/

/-- The text is laid out in front of something that ends the scan. -/
def HasLayout (text : String) : Prop :=
  ∃ pieces gap rest, IsLaidOut text pieces gap rest ∧ Halts rest

namespace HasLayout

variable {text : String}

theorem of_halts (h : Halts text) : HasLayout text :=
  ⟨[], "", text, ⟨by simp, trivial, nofun⟩, h⟩

theorem append_token {text : List Char} (h : HasLayout (String.ofList text)) (token : Token)
    (hproper : token.IsProper) (hends : token.EndsBefore (String.ofList text)) :
    HasLayout (String.ofList (token.text.toList ++ text)) := by
  obtain ⟨pieces, gap, rest, ⟨htext, hpieces, hgap⟩, hrest⟩ := h
  rw [htext] at hends
  refine ⟨⟨"", token⟩ :: pieces, gap, rest, ⟨?_, ⟨nofun, hproper, hends, hpieces⟩, hgap⟩, hrest⟩
  rw [String.ofList_append, String.ofList_toList, htext]
  simp [Piece.text, String.append_assoc]

theorem cons_space {text : List Char} (h : HasLayout (String.ofList text))
    (hc : Token.isSpace c = true) : HasLayout (String.ofList (c :: text)) := by
  have hmore {gap : String} (hgap : IsGap gap) : IsGap (String.singleton c ++ gap) := by
    unfold IsGap
    rw [String.toList_append, String.toList_singleton, List.singleton_append]
    exact List.forall_mem_cons.2 ⟨hc, hgap⟩
  obtain ⟨pieces, gap, rest, ⟨htext, hpieces, hgap⟩, hrest⟩ := h
  rw [String.ofList_cons, htext]
  cases pieces with
  | nil =>
    refine ⟨[], String.singleton c ++ gap, rest, ⟨?_, trivial, hmore hgap⟩, hrest⟩
    simp [String.append_assoc]
  | cons piece pieces =>
    obtain ⟨hfirst, hothers⟩ := hpieces
    refine ⟨⟨String.singleton c ++ piece.gap, piece.token⟩ :: pieces, gap, rest,
      ⟨?_, ⟨hmore hfirst, hothers⟩, hgap⟩, hrest⟩
    simp [Piece.text, String.append_assoc]

end HasLayout

/-- **Every text is laid out** in front of something that ends the scan. -/
theorem hasLayout_ofList (text : List Char) : HasLayout (String.ofList text) := by
  fun_induction Token.scan text with
  | case1 => exact .of_halts (Or.inl rfl)
  | case2 rest ih => exact ih.append_token .star trivial trivial
  | case3 rest ih => exact ih.append_token .ampAmp trivial trivial
  | case4 rest hnext ih =>
    refine ih.append_token .amp trivial fun hhead => ?_
    rw [String.toList_ofList] at hhead
    obtain ⟨tail, rfl⟩ := List.head?_eq_some_iff.1 hhead
    exact hnext tail rfl
  | case5 c rest _ _ _ hc ih => exact ih.cons_space hc
  | case6 c rest _ _ _ _ hc tail after hscan ih =>
    have hword : IsWord (c :: tail) := ⟨c, tail, rfl, hc, Token.scanWord_run hscan⟩
    have hstops := Token.stopsWord_of_scanWord hscan
    have happend := ih.append_token (.word (String.ofList (c :: tail)))
      (by rw [Token.IsProper, String.toList_ofList]; exact isWord_iff.1 hword)
      (Token.endsBefore_word_iff.2 (by rwa [String.toList_ofList]))
    rwa [Token.text, String.toList_ofList, List.cons_append, Token.scanWord_append hscan] at happend
  | case7 c rest _ _ _ _ hc hscan =>
    refine .of_halts (Or.inr (Or.inl ?_))
    rw [String.toList_ofList]
    exact isUnclosedWord_cons_iff.2 ⟨hc, hscan⟩
  | case8 c rest hstar _ hamp hspace hword =>
    refine .of_halts (Or.inr (Or.inr ⟨c, by simp, fun houtside => ?_⟩))
    rcases houtside with h | h | h | h
    · exact hspace h
    · exact hstar h
    · exact hamp h
    · exact hword h

end FortranBindings.CxxType
