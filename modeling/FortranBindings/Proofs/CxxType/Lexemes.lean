import FortranBindings.CxxType.Spelling
import FortranBindings.Proofs.CxxType.SpellingBytes

/-!
# Tokens and the bytes that they take up

What is scanned in the bytes of a spelling is its layout: each piece is a step over a gap and a step
over a token (`Lexeme.scanFrom_laidOut`), and what the pieces end at decides between the result and
the faults (`Lexeme.scan_cases`). As every spelling has a layout, this says what is scanned in
every spelling (`Lexeme.scan_exact`).
-/

namespace FortranBindings.CxxType

/-- The fault that the bytes of a spelling show for a fault of its characters. -/
def ScanFault.ofLexical : LexicalFault → ScanFault
  | .unbalancedBrackets => unbalancedBrackets
  | .unexpected c => unexpected (firstByte c)

theorem leadingByte_eq (c : Char) : leadingByte c = Char.ofUInt8 (firstByte c) := by
  change Char.ofNat (firstByte c).toNat = Char.ofUInt8 (firstByte c)
  rw [← toNat_ofUInt8, Char.ofNat_toNat]

/-- Both faults are told in the same words. -/
theorem ScanFault.reason?_ofLexical (fault : LexicalFault) :
    (ofLexical fault).reason? = some (SpellingFault.lexical fault).message := by
  unfold SpellingFault.message
  cases fault with
  | unbalancedBrackets => dsimp only [ofLexical, reason?]
  | unexpected c => dsimp only [ofLexical, reason?]; rw [leadingByte_eq]

namespace Lexeme

/-- The tokens of the pieces, with the bytes that they take up where the pieces stand behind a
text. -/
def placed (before : String) : List Piece → List Lexeme
  | [] => []
  | piece :: pieces =>
    ⟨piece.token, (before ++ piece.gap).utf8ByteSize, (before ++ piece.text).utf8ByteSize⟩ ::
      placed (before ++ piece.text) pieces

variable {spelling before rest gap word : String} {token : Token} {piece : Piece}
  {pieces : List Piece} {fault : ScanFault} {c : Char} {i next : Nat}

theorem map_token_placed (before : String) (pieces : List Piece) :
    (placed before pieces).map Lexeme.token = pieces.map Piece.token := by
  induction pieces generalizing before with
  | nil => rfl
  | cons piece pieces ih => simp [placed, ih]

/-! ## Steps -/

section Steps

variable {h : i < spelling.toUTF8.size}

theorem step_of_isSpace (hread : ReadAs c spelling.toUTF8[i]) (hc : Token.isSpace c = true) :
    step spelling i h = .ok (none, i + 1) := by
  simp only [step, hread.isSpace_eq, hc, if_true]

theorem step_star (hread : ReadAs '*' spelling.toUTF8[i]) :
    step spelling i h = .ok (some .star, i + 1) := by
  have hstar := (hread.eq_iff (by decide)).2 rfl
  have hspace : Token.isSpace '*' = false := rfl
  simp only [step, hspace, hstar, Bool.false_eq_true, if_true, if_false]

theorem step_amp (hread : ReadAs '&' spelling.toUTF8[i]) :
    step spelling i h =
      if spelling.toUTF8[i + 1]?.map Char.ofUInt8 = some '&' then .ok (some .ampAmp, i + 2)
      else .ok (some .amp, i + 1) := by
  have hamp := (hread.eq_iff (by decide)).2 rfl
  have hspace : Token.isSpace '&' = false := rfl
  simp only [step, hspace, hamp, show ('&' : Char) ≠ '*' by decide,
    Bool.false_eq_true, if_true, if_false]

theorem step_word (hread : ReadAs c spelling.toUTF8[i]) (hc : Token.isWordChar c = true)
    (hend : wordEnd spelling.toUTF8 i 0 = (next, 0)) (hcut : cut? spelling i next = some word) :
    step spelling i h = .ok (some (.word word), next) := by
  rw [← hread.isWordChar_eq] at hc
  obtain ⟨hstar, hamp, hspace⟩ := Token.ne_mark_of_isWordChar hc
  simp only [step, hspace, hstar, hamp, hc, hend, hcut, ne_eq, not_true_eq_false,
    Bool.false_eq_true, if_true, if_false]

theorem step_unclosed (hread : ReadAs c spelling.toUTF8[i]) (hc : Token.isWordChar c = true)
    (hend : (wordEnd spelling.toUTF8 i 0).2 ≠ 0) :
    step spelling i h = .error .unbalancedBrackets := by
  rw [← hread.isWordChar_eq] at hc
  obtain ⟨hstar, hamp, hspace⟩ := Token.ne_mark_of_isWordChar hc
  simp only [step, hspace, hstar, hamp, hc, if_pos hend, Bool.false_eq_true, if_true, if_false]

theorem step_of_not_isOutsideWords (hread : ReadAs c spelling.toUTF8[i])
    (hc : ¬IsOutsideWords c) :
    step spelling i h = .error (.unexpected spelling.toUTF8[i]) := by
  rw [← hread.isOutsideWords_iff] at hc
  obtain ⟨hspace, hstar, hamp, hword⟩ := by simpa only [IsOutsideWords, not_or] using hc
  simp only [step, hspace, hstar, hamp, hword, Bool.false_eq_true, if_false]

theorem scanFrom_of_step_token (hstep : step spelling i h = .ok (some token, next)) :
    scanFrom spelling i = (scanFrom spelling next).map (⟨token, i, next⟩ :: ·) := by
  rw [scanFrom, dif_pos h]
  grind

theorem scanFrom_of_step_space (hstep : step spelling i h = .ok (none, next)) :
    scanFrom spelling i = scanFrom spelling next := by
  rw [scanFrom, dif_pos h]
  grind

theorem scanFrom_of_step_error (hstep : step spelling i h = .error fault) :
    scanFrom spelling i = .error fault := by
  rw [scanFrom, dif_pos h]
  grind

end Steps

/-- The byte behind a text is the first one of the character that follows. -/
theorem exists_getElem_eq (h : rest.toList.head? = some c) (before : String) :
    ∃ hlt : before.utf8ByteSize < (before ++ rest).toUTF8.size,
      (before ++ rest).toUTF8[before.utf8ByteSize] = firstByte c := by
  have hbyte := toUTF8_append_getElem?_zero before rest
  rw [h] at hbyte
  exact getElem?_eq_some_iff.1 hbyte

theorem exists_readAs_getElem (h : rest.toList.head? = some c) (before : String) :
    ∃ hlt : before.utf8ByteSize < (before ++ rest).toUTF8.size,
      ReadAs c (before ++ rest).toUTF8[before.utf8ByteSize] := by
  obtain ⟨hlt, hbyte⟩ := exists_getElem_eq h before
  exact ⟨hlt, hbyte ▸ readAs_firstByte c⟩

/-- Two ampersands are taken together. -/
theorem exists_step_amp (before rest : String) :
    ∃ hlt, step (before ++ ("&" ++ rest)) before.utf8ByteSize hlt =
      if rest.toList.head? = some '&' then .ok (some .ampAmp, before.utf8ByteSize + 2)
      else .ok (some .amp, before.utf8ByteSize + 1) := by
  have hhead : ("&" ++ rest).toList.head? = some '&' := by simp
  obtain ⟨hlt, hread⟩ := exists_readAs_getElem hhead before
  have hnext : (before ++ ("&" ++ rest)).toUTF8[before.utf8ByteSize + 1]?.map Char.ofUInt8 =
      some '&' ↔ rest.toList.head? = some '&' := by
    rw [toUTF8_append_getElem?]
    change ("&" ++ rest).toUTF8["&".utf8ByteSize]?.map Char.ofUInt8 = some '&' ↔ _
    rw [toUTF8_append_getElem?_zero]
    cases rest.toList.head? with
    | none => simp
    | some d => simp [(readAs_firstByte d).eq_iff (show '&'.toNat < 128 by decide)]
  exact ⟨hlt, by simp only [step_amp hread, hnext]⟩

/-- A token is stepped over where it does not go on. -/
theorem exists_step_token (hproper : token.IsProper) (hends : token.EndsBefore rest)
    (before : String) :
    ∃ hlt, step (before ++ (token.text ++ rest)) before.utf8ByteSize hlt =
      .ok (some token, (before ++ token.text).utf8ByteSize) := by
  unfold Token.text
  cases token with
  | word text =>
    obtain ⟨c, hhead, hc⟩ := hproper.1.begins
    have hhead' : (text ++ rest).toList.head? = some c := by
      rw [String.toList_append, List.head?_append, hhead, Option.some_or]
    obtain ⟨hlt, hread⟩ := exists_readAs_getElem hhead' before
    have hbehind : Token.bracketsBehind 0 text.toList = some 0 :=
      Token.bracketsBehind_eq_some_iff.2
        ⟨hproper.1.toContinuesWord, by rw [hproper.2, Nat.add_comm]⟩
    have hend := wordEnd_append_of_stopsWord hbehind (Token.endsBefore_word_iff.1 hends) before
    exact ⟨hlt, step_word hread hc hend (cut?_append before text rest)⟩
  | star =>
    have hhead : ("*" ++ rest).toList.head? = some '*' := by simp
    obtain ⟨hlt, hread⟩ := exists_readAs_getElem hhead before
    refine ⟨hlt, ?_⟩
    rw [step_star hread, String.utf8ByteSize_append]
    rfl
  | amp =>
    obtain ⟨hlt, hstep⟩ := exists_step_amp before rest
    refine ⟨hlt, ?_⟩
    rw [hstep, if_neg hends, String.utf8ByteSize_append]
    rfl
  | ampAmp =>
    obtain ⟨hlt, hstep⟩ := exists_step_amp before ("&" ++ rest)
    have htwo : "&&" ++ rest = "&" ++ ("&" ++ rest) := by
      rw [← String.append_assoc]
      rfl
    rw [htwo]
    refine ⟨hlt, ?_⟩
    rw [hstep, if_pos (by simp), String.utf8ByteSize_append]
    rfl

/-! ## Scanning a layout -/

theorem utf8Size_of_isSpace (h : Token.isSpace c = true) : c.utf8Size = 1 := by
  simp only [Token.isSpace, Bool.or_eq_true, beq_iff_eq] at h
  rcases h with (((rfl | rfl) | rfl) | rfl) | rfl <;> rfl

theorem scanFrom_gap (h : IsGap gap) (before rest : String) :
    scanFrom (before ++ (gap ++ rest)) before.utf8ByteSize =
      scanFrom (before ++ (gap ++ rest)) (before ++ gap).utf8ByteSize := by
  obtain ⟨text, rfl⟩ : ∃ text, gap = String.ofList text := ⟨_, String.ofList_toList.symm⟩
  rw [IsGap, String.toList_ofList] at h
  induction text generalizing before with
  | nil => simp
  | cons c text ih =>
    obtain ⟨hc, hothers⟩ := List.forall_mem_cons.1 h
    have hhead : (String.ofList (c :: text) ++ rest).toList.head? = some c := by simp
    obtain ⟨hlt, hread⟩ := exists_readAs_getElem hhead before
    have hfirst := scanFrom_of_step_space (step_of_isSpace hread hc (h := hlt))
    have hbehind := ih (before ++ String.singleton c) hothers
    -- ASCII whitespace is one byte, which is what the step goes over.
    rw [String.utf8ByteSize_append, String.utf8ByteSize_singleton, utf8Size_of_isSpace hc]
      at hbehind
    rw [hfirst]
    simpa only [String.ofList_cons, String.append_assoc] using hbehind

theorem scanFrom_token (hproper : token.IsProper) (hends : token.EndsBefore rest)
    (before : String) :
    scanFrom (before ++ (token.text ++ rest)) before.utf8ByteSize =
      (scanFrom (before ++ (token.text ++ rest)) (before ++ token.text).utf8ByteSize).map
        (⟨token, before.utf8ByteSize, (before ++ token.text).utf8ByteSize⟩ :: ·) := by
  obtain ⟨hlt, hstep⟩ := exists_step_token hproper hends before
  exact scanFrom_of_step_token hstep

/-- **The pieces of a layout** are scanned one by one, where they stand. -/
theorem scanFrom_laidOut (h : IsLayout rest pieces) (before : String) :
    scanFrom (before ++ (laidOut pieces ++ rest)) before.utf8ByteSize =
      (scanFrom (before ++ (laidOut pieces ++ rest)) (before ++ laidOut pieces).utf8ByteSize).map
        (placed before pieces ++ ·) := by
  induction pieces generalizing before with
  | nil =>
    rw [laidOut_nil, String.append_empty]
    cases scanFrom (before ++ ("" ++ rest)) before.utf8ByteSize <;> rfl
  | cons piece pieces ih =>
    obtain ⟨hgap, hproper, hends, hrest⟩ := h
    -- The text is cut in front of the gap, in front of the token and behind it.
    have hfirst := scanFrom_gap hgap before (piece.token.text ++ (laidOut pieces ++ rest))
    have hsecond := scanFrom_token hproper hends (before ++ piece.gap)
    have hothers := ih hrest (before ++ piece.text)
    simp only [laidOut_cons, Piece.text, placed, String.append_assoc] at hfirst hsecond hothers ⊢
    rw [hfirst, hsecond, hothers]
    cases scanFrom _ _ <;> rfl

/-! ## What the pieces end at -/

theorem scanFrom_end (before : String) : scanFrom before before.utf8ByteSize = .ok [] := by
  rw [scanFrom, dif_neg]
  exact Nat.lt_irrefl _

theorem scanFrom_unclosed (h : IsUnclosedWord word.toList) (before : String) :
    scanFrom (before ++ word) before.utf8ByteSize = .error .unbalancedBrackets := by
  obtain ⟨hpart, hcount⟩ := h
  obtain ⟨c, hhead, hc⟩ := hpart.begins
  obtain ⟨hlt, hread⟩ := exists_readAs_getElem hhead before
  obtain ⟨n, hn⟩ := Nat.exists_eq_add_of_lt hcount
  have hbehind : Token.bracketsBehind 0 word.toList = some (n + 1) :=
    Token.bracketsBehind_eq_some_iff.2 ⟨hpart.toContinuesWord, by omega⟩
  have hend := wordEnd_append_of_open hbehind before
  exact scanFrom_of_step_error (step_unclosed (h := hlt) hread hc (by rw [hend]; simp))

theorem scanFrom_unexpected (hhead : rest.toList.head? = some c) (hc : ¬IsOutsideWords c)
    (before : String) :
    scanFrom (before ++ rest) before.utf8ByteSize = .error (.unexpected (firstByte c)) := by
  obtain ⟨hlt, hbyte⟩ := exists_getElem_eq hhead before
  refine scanFrom_of_step_error (h := hlt) ?_
  have hread := readAs_firstByte c
  rw [← hbyte] at hread
  rw [step_of_not_isOutsideWords hread hc, hbyte]

/-- Bytes end a scan as their characters do. -/
theorem map_scanFrom_of_halts (h : Halts rest) (before : String) :
    (scanFrom (before ++ rest) before.utf8ByteSize).map (List.map Lexeme.token) =
      (Token.scan rest.toList).mapError ScanFault.ofLexical := by
  rcases h with rfl | hunclosed | ⟨c, hhead, hc⟩
  · rw [String.append_empty, scanFrom_end, String.toList_empty, Token.scan_nil]
    rfl
  · rw [scanFrom_unclosed hunclosed, Token.scan_of_isUnclosedWord hunclosed]
    rfl
  · rw [scanFrom_unexpected hhead hc, Token.scan_of_not_isOutsideWords hhead hc]
    rfl

/-! ## Scanning a spelling -/

theorem scan_of_isLaidOut (h : IsLaidOut spelling pieces gap rest) :
    scan spelling =
      (scanFrom ((laidOut pieces ++ gap) ++ rest) (laidOut pieces ++ gap).utf8ByteSize).map
        (placed "" pieces ++ ·) := by
  obtain ⟨rfl, hpieces, hgap⟩ := h
  have hscan := scanFrom_laidOut hpieces ""
  rw [String.empty_append, String.empty_append, scanFrom_gap hgap, ← String.append_assoc] at hscan
  rw [scan, ← String.append_assoc]
  exact hscan

theorem scan_eq_ok (h : IsLaidOut spelling pieces gap "") :
    scan spelling = .ok (placed "" pieces) := by
  rw [scan_of_isLaidOut h, String.append_empty, scanFrom_end]
  exact congrArg Except.ok (List.append_nil _)

theorem scan_eq_unbalancedBrackets (h : IsLaidOut spelling pieces gap word)
    (hword : IsUnclosedWord word.toList) : scan spelling = .error .unbalancedBrackets := by
  rw [scan_of_isLaidOut h, scanFrom_unclosed hword]
  rfl

theorem scan_eq_unexpected (h : IsLaidOut spelling pieces gap rest)
    (hhead : rest.toList.head? = some c) (hc : ¬IsOutsideWords c) :
    scan spelling = .error (.unexpected (firstByte c)) := by
  rw [scan_of_isLaidOut h, scanFrom_unexpected hhead hc]
  rfl

/-- **What is scanned in a spelling** goes by what its layout ends at. -/
theorem scan_cases (spelling : String) :
    (∃ pieces gap, IsLaidOut spelling pieces gap "" ∧
      scan spelling = .ok (placed "" pieces)) ∨
    (∃ pieces gap word, IsLaidOut spelling pieces gap word ∧ IsUnclosedWord word.toList ∧
      scan spelling = .error .unbalancedBrackets) ∨
    (∃ pieces gap rest c, IsLaidOut spelling pieces gap rest ∧ rest.toList.head? = some c ∧
      ¬IsOutsideWords c ∧ scan spelling = .error (.unexpected (firstByte c))) := by
  have hlayout := hasLayout_ofList spelling.toList
  rw [String.ofList_toList] at hlayout
  obtain ⟨pieces, gap, rest, h, rfl | hunclosed | ⟨c, hhead, hc⟩⟩ := hlayout
  · exact .inl ⟨pieces, gap, h, scan_eq_ok h⟩
  · exact .inr (.inl ⟨pieces, gap, rest, h, hunclosed, scan_eq_unbalancedBrackets h hunclosed⟩)
  · exact .inr (.inr ⟨pieces, gap, rest, c, h, hhead, hc, scan_eq_unexpected h hhead hc⟩)

theorem scan_eq_ok_iff {lexemes : List Lexeme} : scan spelling = .ok lexemes ↔
    ∃ pieces gap, IsLaidOut spelling pieces gap "" ∧ lexemes = placed "" pieces := by
  constructor
  · intro h
    obtain ⟨pieces, gap, hlaidOut, hscan⟩ | ⟨_, _, _, _, _, hscan⟩ |
      ⟨_, _, _, _, _, _, _, hscan⟩ := scan_cases spelling
    · exact ⟨pieces, gap, hlaidOut, Except.ok.inj (h.symm.trans hscan)⟩
    · cases h.symm.trans hscan
    · cases h.symm.trans hscan
  · rintro ⟨pieces, gap, hlaidOut, rfl⟩
    exact scan_eq_ok hlaidOut

theorem scan_eq_unbalancedBrackets_iff : scan spelling = .error .unbalancedBrackets ↔
    ∃ pieces gap word, IsLaidOut spelling pieces gap word ∧ IsUnclosedWord word.toList := by
  constructor
  · intro h
    obtain ⟨_, _, _, hscan⟩ | ⟨pieces, gap, word, hlaidOut, hword, -⟩ |
      ⟨_, _, _, _, _, _, _, hscan⟩ := scan_cases spelling
    · cases h.symm.trans hscan
    · exact ⟨pieces, gap, word, hlaidOut, hword⟩
    · cases h.symm.trans hscan
  · rintro ⟨pieces, gap, word, hlaidOut, hword⟩
    exact scan_eq_unbalancedBrackets hlaidOut hword

theorem scan_eq_unexpected_iff {byte : UInt8} : scan spelling = .error (.unexpected byte) ↔
    ∃ pieces gap rest, IsLaidOut spelling pieces gap rest ∧ rest.toUTF8[0]? = some byte ∧
      ¬IsOutsideWords (Char.ofUInt8 byte) := by
  constructor
  · intro h
    obtain ⟨_, _, _, hscan⟩ | ⟨_, _, _, _, _, hscan⟩ |
      ⟨pieces, gap, rest, c, hlaidOut, hhead, hc, hscan⟩ := scan_cases spelling
    · cases h.symm.trans hscan
    · cases h.symm.trans hscan
    · obtain rfl : byte = firstByte c := by
        injection h.symm.trans hscan with hfault
        injection hfault
      refine ⟨pieces, gap, rest, hlaidOut, ?_, ?_⟩
      · rw [toUTF8_getElem?_zero, hhead, Option.map_some]
      · rwa [(readAs_firstByte c).isOutsideWords_iff]
  · rintro ⟨pieces, gap, rest, hlaidOut, hbyte, hc⟩
    rw [toUTF8_getElem?_zero] at hbyte
    obtain ⟨c, hhead, rfl⟩ := Option.map_eq_some_iff.1 hbyte
    rw [(readAs_firstByte c).isOutsideWords_iff] at hc
    exact scan_eq_unexpected hlaidOut hhead hc

/-- No word begins or ends in the middle of a character. -/
theorem scan_ne_brokenCharacter (spelling : String) :
    scan spelling ≠ .error .brokenCharacter := by
  intro h
  obtain ⟨_, _, _, hscan⟩ | ⟨_, _, _, _, _, hscan⟩ | ⟨_, _, _, _, _, _, _, hscan⟩ :=
    scan_cases spelling <;> cases h.symm.trans hscan

/-- The tokens and the faults are those of the characters. -/
theorem map_scan (spelling : String) :
    (scan spelling).map (List.map Lexeme.token) =
      (Token.scan spelling.toList).mapError ScanFault.ofLexical := by
  have hlayout := hasLayout_ofList spelling.toList
  rw [String.ofList_toList] at hlayout
  obtain ⟨pieces, gap, rest, h, hhalts⟩ := hlayout
  have hend := map_scanFrom_of_halts hhalts (laidOut pieces ++ gap)
  have hbytes := scan_of_isLaidOut h
  have hchars : Token.scan spelling.toList =
      (Token.scan rest.toList).map (pieces.map Piece.token ++ ·) := by
    rw [h.eq_append, Token.scan_laidOut h.isLayout, String.toList_append,
      Token.scan_append_of_isGap h.isGap]
  rw [hbytes, hchars]
  generalize scanFrom _ _ = lexemes at hend ⊢
  generalize Token.scan rest.toList = tokens at hend ⊢
  cases lexemes with
  | ok lexemes =>
    cases tokens with
    | ok tokens =>
      obtain rfl : lexemes.map Lexeme.token = tokens := Except.ok.inj hend
      change Except.ok _ = Except.ok _
      rw [List.map_append, map_token_placed]
    | error => cases hend
  | error =>
    cases tokens with
    | ok => cases hend
    | error => exact hend

/-- A token stands in the text where it is placed. -/
theorem exists_append_of_mem_placed {lexeme : Lexeme} (h : lexeme ∈ placed before pieces)
    (rest : String) :
    ∃ front back, before ++ (laidOut pieces ++ rest) = front ++ (lexeme.token.text ++ back) ∧
      lexeme.start = front.utf8ByteSize ∧
      lexeme.stop = (front ++ lexeme.token.text).utf8ByteSize := by
  induction pieces generalizing before with
  | nil => cases h
  | cons piece pieces ih =>
    rw [laidOut_cons]
    rcases List.mem_cons.1 h with rfl | hmem
    · refine ⟨before ++ piece.gap, laidOut pieces ++ rest, ?_, rfl, ?_⟩
      · simp only [Piece.text, String.append_assoc]
      · simp only [Piece.text, String.append_assoc]
    · simpa only [String.append_assoc] using ih hmem

/-- The bytes of a token are those of its text. -/
theorem cut?_of_mem_scan {lexemes : List Lexeme} {lexeme : Lexeme}
    (h : scan spelling = .ok lexemes) (hmem : lexeme ∈ lexemes) :
    cut? spelling lexeme.start lexeme.stop = some lexeme.token.text := by
  obtain ⟨pieces, gap, hlaidOut, rfl⟩ := scan_eq_ok_iff.1 h
  obtain ⟨front, back, happend, hstart, hstop⟩ := exists_append_of_mem_placed hmem (gap ++ "")
  rw [String.empty_append, ← hlaidOut.eq_append] at happend
  rw [hstart, hstop, happend]
  exact cut?_append front lexeme.token.text back

theorem isValid_of_cut? {text : String} {start stop : Nat}
    (h : cut? text start stop = some word) :
    (⟨start⟩ : String.Pos.Raw).IsValid text ∧ (⟨stop⟩ : String.Pos.Raw).IsValid text := by
  unfold cut? at h
  split at h
  next hvalid => exact hvalid.2
  next => cases h

/-- **A scan loses nothing** and cuts no character. A spelling is scanned into tokens exactly if it
consists of their texts with whitespace between them and behind them, where words are balanced and
no token goes on behind its end; each token then takes up the bytes from one character to another
that its text stands at. Otherwise there is a word that is not closed, or a byte outside of words
that may not stand there, and what comes first is the fault. -/
theorem scan_exact (spelling : String) :
    (∀ lexemes, scan spelling = .ok lexemes ↔
      ∃ pieces gap, IsLaidOut spelling pieces gap "" ∧ lexemes = placed "" pieces) ∧
    (∀ lexemes, scan spelling = .ok lexemes → ∀ lexeme ∈ lexemes,
      (⟨lexeme.start⟩ : String.Pos.Raw).IsValid spelling ∧
      (⟨lexeme.stop⟩ : String.Pos.Raw).IsValid spelling ∧
      cut? spelling lexeme.start lexeme.stop = some lexeme.token.text) ∧
    (scan spelling = .error .unbalancedBrackets ↔
      ∃ pieces gap word, IsLaidOut spelling pieces gap word ∧ IsUnclosedWord word.toList) ∧
    (∀ byte, scan spelling = .error (.unexpected byte) ↔
      ∃ pieces gap rest, IsLaidOut spelling pieces gap rest ∧ rest.toUTF8[0]? = some byte ∧
        ¬IsOutsideWords (Char.ofUInt8 byte)) ∧
    scan spelling ≠ .error .brokenCharacter ∧
    (scan spelling).map (List.map Lexeme.token) =
      (Token.scan spelling.toList).mapError ScanFault.ofLexical := by
  refine ⟨fun _ => scan_eq_ok_iff, fun lexemes h lexeme hmem => ?_,
    scan_eq_unbalancedBrackets_iff, fun _ => scan_eq_unexpected_iff,
    scan_ne_brokenCharacter spelling, map_scan spelling⟩
  have hcut := cut?_of_mem_scan h hmem
  obtain ⟨hstart, hstop⟩ := isValid_of_cut? hcut
  exact ⟨hstart, hstop, hcut⟩

theorem scan_exact_of_brackets :
    scan "std::map<Größe, a<b>> &&" =
      .ok [⟨.word "std::map<Größe, a<b>>", 0, 23⟩, ⟨.ampAmp, 24, 26⟩] ∧
    scan "a &b<é" = .error .unbalancedBrackets ∧
    scan "a é" = .error (.unexpected 0xC3) := by
  refine ⟨((scan_exact _).1 _).2
      ⟨[⟨"", .word "std::map<Größe, a<b>>"⟩, ⟨" ", .ampAmp⟩], "", ?_, ?_⟩,
    (scan_exact _).2.2.1.2 ⟨[⟨"", .word "a"⟩, ⟨" ", .amp⟩], "", "b<é", ?_, ?_⟩,
    ((scan_exact _).2.2.2.1 _).2 ⟨[⟨"", .word "a"⟩], " ", "é", ?_, ?_, ?_⟩⟩
  all_goals decide

end Lexeme

end FortranBindings.CxxType
