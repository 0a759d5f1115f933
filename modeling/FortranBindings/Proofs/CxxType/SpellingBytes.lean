import FortranBindings.CxxType.Lexeme
import FortranBindings.Proofs.CxxType.Layout

/-!
# Characters of a spelling in its bytes

A scan reads single bytes. The byte of an ASCII character is read as that character, and the bytes
of the others are read as characters that are not ASCII either (`ReadAs`), so that a scan takes both
for the same. A word ends in the bytes of a spelling where it ends among its characters
(`Lexeme.wordEnd_append`), and it can be cut out of them (`Lexeme.cut?_append`).
-/

namespace FortranBindings.CxxType

/-- The byte is that of an ASCII character, or one of those of another character. -/
def ReadAs (c : Char) (byte : UInt8) : Prop :=
  Char.ofUInt8 byte = c ∨ 128 ≤ c.toNat ∧ 128 ≤ byte.toNat

variable {c d : Char} {byte : UInt8} {before rest word : String} {k : Nat}

/-! ## What a byte is read as -/

theorem toNat_ofUInt8 (byte : UInt8) : (Char.ofUInt8 byte).toNat = byte.toNat := by
  change byte.toUInt32.toNat = byte.toNat
  rw [UInt8.toNat_toUInt32]

theorem Token.isSpace_of_le (h : 128 ≤ c.toNat) : Token.isSpace c = false := by
  by_contra hspace
  simp only [Token.isSpace, Bool.not_eq_false, Bool.or_eq_true, beq_iff_eq] at hspace
  rcases hspace with (((rfl | rfl) | rfl) | rfl) | rfl <;> exact absurd h (by decide)

theorem Token.isWordChar_of_le (h : 128 ≤ c.toNat) : Token.isWordChar c = false := by
  have hunderscore : c ≠ '_' := by rintro rfl; exact absurd h (by decide)
  have hcolon : c ≠ ':' := by rintro rfl; exact absurd h (by decide)
  have hbehind {last : Char} (hlast : last.toNat < 128) : ¬c.val ≤ last.val := fun hle => by
    have hbound : c.toNat ≤ last.toNat := UInt32.le_iff_toNat_le.1 hle
    omega
  have hupper : c.isUpper = false := decide_eq_false fun hc => hbehind (by decide) hc.2
  have hlower : c.isLower = false :=
    Bool.and_eq_false_iff.2 (Or.inr (decide_eq_false (hbehind (show 'z'.toNat < 128 by decide))))
  have hdigit : c.isDigit = false :=
    Bool.and_eq_false_iff.2 (Or.inr (decide_eq_false (hbehind (show '9'.toNat < 128 by decide))))
  have hcases : c.isAlphanum = (c.isUpper || c.isLower || c.isDigit) := rfl
  simp [Token.isWordChar, hcases, hupper, hlower, hdigit, hunderscore, hcolon]

namespace ReadAs

theorem eq_iff (h : ReadAs c byte) (hd : d.toNat < 128) : Char.ofUInt8 byte = d ↔ c = d := by
  rcases h with rfl | ⟨hc, hbyte⟩
  · exact Iff.rfl
  · rw [← toNat_ofUInt8] at hbyte
    refine iff_of_false ?_ ?_
    · rintro rfl
      omega
    · rintro rfl
      omega

theorem isSpace_eq (h : ReadAs c byte) :
    Token.isSpace (Char.ofUInt8 byte) = Token.isSpace c := by
  rcases h with rfl | ⟨hc, hbyte⟩
  · rfl
  · rw [Token.isSpace_of_le hc, Token.isSpace_of_le (by rwa [toNat_ofUInt8])]

theorem isWordChar_eq (h : ReadAs c byte) :
    Token.isWordChar (Char.ofUInt8 byte) = Token.isWordChar c := by
  rcases h with rfl | ⟨hc, hbyte⟩
  · rfl
  · rw [Token.isWordChar_of_le hc, Token.isWordChar_of_le (by rwa [toNat_ofUInt8])]

theorem bracketsAfter_eq (h : ReadAs c byte) (depth : Nat) :
    Token.bracketsAfter depth (Char.ofUInt8 byte) = Token.bracketsAfter depth c := by
  unfold Token.bracketsAfter
  rw [h.isWordChar_eq]
  simp only [h.eq_iff (show '<'.toNat < 128 by decide), h.eq_iff (show '>'.toNat < 128 by decide)]

theorem isOutsideWords_iff (h : ReadAs c byte) :
    IsOutsideWords (Char.ofUInt8 byte) ↔ IsOutsideWords c := by
  rw [IsOutsideWords, IsOutsideWords, h.isSpace_eq, h.isWordChar_eq,
    h.eq_iff (show '*'.toNat < 128 by decide), h.eq_iff (show '&'.toNat < 128 by decide)]

end ReadAs

theorem readAs_of_mem_utf8EncodeChar (h : byte ∈ String.utf8EncodeChar c) : ReadAs c byte := by
  have hvalue : c.val.toNat = c.toNat := rfl
  by_cases hc : c.toNat ≤ 127
  · left
    simp only [String.utf8EncodeChar, hvalue, hc, if_true, List.mem_singleton] at h
    apply Char.ext
    apply UInt32.toNat_inj.1
    change (Char.ofUInt8 byte).toNat = c.toNat
    rw [toNat_ofUInt8, h, UInt8.toNat_ofNat']
    omega
  · refine Or.inr ⟨by omega, ?_⟩
    simp only [String.utf8EncodeChar, hvalue, hc, if_false] at h
    split at h
    · simp only [List.mem_cons, List.not_mem_nil, or_false] at h
      rcases h with rfl | rfl <;> simp <;> omega
    · split at h
      · simp only [List.mem_cons, List.not_mem_nil, or_false] at h
        rcases h with rfl | rfl | rfl <;> simp <;> omega
      · simp only [List.mem_cons, List.not_mem_nil, or_false] at h
        rcases h with rfl | rfl | rfl | rfl <;> simp <;> omega

/-- The first byte of a character in UTF-8. -/
def firstByte (c : Char) : UInt8 := (String.utf8EncodeChar c).headD 0

theorem readAs_firstByte (c : Char) : ReadAs c (firstByte c) := by
  apply readAs_of_mem_utf8EncodeChar
  rw [firstByte, List.headD_eq_head?_getD]
  cases hbytes : String.utf8EncodeChar c with
  | nil => exact absurd hbytes String.utf8EncodeChar_ne_nil
  | cons byte bytes => exact List.mem_cons_self

/-! ## Where the bytes stand -/

theorem toUTF8_append_getElem? (before rest : String) (k : Nat) :
    (before ++ rest).toUTF8[before.utf8ByteSize + k]? = rest.toUTF8[k]? := by
  by_cases hk : k < rest.toUTF8.size
  · have hlt : before.utf8ByteSize + k < (before ++ rest).toUTF8.size := by simpa using hk
    rw [getElem?_pos rest.toUTF8 k hk, getElem?_pos (before ++ rest).toUTF8 _ hlt]
    simp only [String.toUTF8_eq_toByteArray, String.toByteArray_append]
    rw [ByteArray.getElem_append_right (by simp)]
    simp
  · have hle : ¬before.utf8ByteSize + k < (before ++ rest).toUTF8.size := by simpa using hk
    rw [getElem?_neg rest.toUTF8 k hk, getElem?_neg (before ++ rest).toUTF8 _ hle]

theorem toUTF8_singleton_append_getElem? (rest : String) (hk : k < c.utf8Size) :
    (String.singleton c ++ rest).toUTF8[k]? = (String.utf8EncodeChar c)[k]? := by
  have hlen : k < (String.utf8EncodeChar c).length := by rwa [String.length_utf8EncodeChar]
  have hlt : k < (String.singleton c ++ rest).toUTF8.size := by
    change k < (String.singleton c ++ rest).utf8ByteSize
    rw [String.utf8ByteSize_append, String.utf8ByteSize_singleton]
    omega
  rw [getElem?_pos (String.singleton c ++ rest).toUTF8 k hlt, List.getElem?_eq_getElem hlen]
  simp only [String.toUTF8_eq_toByteArray, String.toByteArray_append, String.toByteArray_singleton,
    List.utf8Encode_singleton]
  rw [ByteArray.getElem_append_left (by simpa using hk)]
  simp

/-- The bytes of a character are read as the character. -/
theorem exists_readAs (rest : String) (hk : k < c.utf8Size) :
    ∃ byte, (String.singleton c ++ rest).toUTF8[k]? = some byte ∧ ReadAs c byte := by
  have hlen : k < (String.utf8EncodeChar c).length := by rwa [String.length_utf8EncodeChar]
  refine ⟨(String.utf8EncodeChar c)[k], ?_, readAs_of_mem_utf8EncodeChar (List.getElem_mem hlen)⟩
  rw [toUTF8_singleton_append_getElem? rest hk, List.getElem?_eq_getElem hlen]

/-- A text begins with the first byte of its first character. -/
theorem toUTF8_getElem?_zero (text : String) :
    text.toUTF8[0]? = text.toList.head?.map firstByte := by
  obtain ⟨chars, rfl⟩ : ∃ chars, text = String.ofList chars := ⟨_, String.ofList_toList.symm⟩
  rw [String.toList_ofList]
  cases chars with
  | nil => rfl
  | cons c chars =>
    rw [String.ofList_cons, toUTF8_singleton_append_getElem? _ c.utf8Size_pos, List.head?_cons,
      Option.map_some, firstByte]
    cases hbytes : String.utf8EncodeChar c with
    | nil => exact absurd hbytes String.utf8EncodeChar_ne_nil
    | cons byte bytes => rfl

/-- The byte behind a text is the first one of the text that follows. -/
theorem toUTF8_append_getElem?_zero (before rest : String) :
    (before ++ rest).toUTF8[before.utf8ByteSize]? = rest.toList.head?.map firstByte := by
  rw [← toUTF8_getElem?_zero]
  exact toUTF8_append_getElem? before rest 0

/-! ## Where a word ends -/

namespace Lexeme

variable {bytes : ByteArray} {i depth next n : Nat}

theorem wordEnd_of_some (hbyte : bytes[i]? = some byte)
    (h : Token.bracketsAfter depth (Char.ofUInt8 byte) = some next) :
    wordEnd bytes i depth = wordEnd bytes (i + 1) next := by
  obtain ⟨hi, rfl⟩ := getElem?_eq_some_iff.1 hbyte
  unfold Token.bracketsAfter at h
  rw [wordEnd]
  grind

theorem wordEnd_of_none (hbyte : bytes[i]? = some byte)
    (h : Token.bracketsAfter depth (Char.ofUInt8 byte) = none) :
    wordEnd bytes i depth = (i, depth) := by
  obtain ⟨hi, rfl⟩ := getElem?_eq_some_iff.1 hbyte
  unfold Token.bracketsAfter at h
  rw [wordEnd]
  grind

theorem wordEnd_of_size_le (h : bytes.size ≤ i) : wordEnd bytes i depth = (i, depth) := by
  rw [wordEnd, dif_neg (by omega)]

/-- A word goes on behind all bytes of a character if it goes on behind the first. -/
theorem wordEnd_singleton (h : Token.bracketsAfter depth c = some next) (before rest : String) :
    wordEnd (before ++ (String.singleton c ++ rest)).toUTF8 before.utf8ByteSize depth =
      wordEnd (before ++ (String.singleton c ++ rest)).toUTF8
        (before ++ String.singleton c).utf8ByteSize next := by
  have hread {k : Nat} (hk : k < c.utf8Size) :
      ∃ byte, (before ++ (String.singleton c ++ rest)).toUTF8[before.utf8ByteSize + k]? =
        some byte ∧ ReadAs c byte := by
    rw [toUTF8_append_getElem?]
    exact exists_readAs rest hk
  -- a character of several bytes is no bracket
  have hsame (hc : 1 < c.utf8Size) : Token.bracketsAfter next c = some next := by
    have hopen : c ≠ '<' := by rintro rfl; exact absurd hc (by decide)
    have hclose : c ≠ '>' := by rintro rfl; exact absurd hc (by decide)
    have hcount := (Token.bracketsAfter_eq_some_iff.1 h).1
    simp only [List.count_singleton, beq_iff_eq, hopen, hclose, if_false, Nat.zero_add,
      Nat.add_zero] at hcount
    rw [hcount]
    rwa [hcount] at h
  suffices hskip : ∀ k < c.utf8Size,
      wordEnd (before ++ (String.singleton c ++ rest)).toUTF8 before.utf8ByteSize depth =
        wordEnd (before ++ (String.singleton c ++ rest)).toUTF8 (before.utf8ByteSize + (k + 1))
          next by
    have hpos := c.utf8Size_pos
    rw [hskip (c.utf8Size - 1) (by omega), String.utf8ByteSize_append,
      String.utf8ByteSize_singleton, Nat.sub_add_cancel hpos]
  intro k hk
  induction k with
  | zero =>
    obtain ⟨byte, hbyte, hc⟩ := hread hk
    exact wordEnd_of_some hbyte (by rw [hc.bracketsAfter_eq, h])
  | succ k ih =>
    obtain ⟨byte, hbyte, hc⟩ := hread hk
    rw [ih (by omega)]
    exact wordEnd_of_some hbyte (by rw [hc.bracketsAfter_eq, hsame (by omega)])

/-- **A word goes on** in the bytes of a spelling as among its characters. -/
theorem wordEnd_append (h : Token.bracketsBehind depth word.toList = some n)
    (before rest : String) :
    wordEnd (before ++ (word ++ rest)).toUTF8 before.utf8ByteSize depth =
      wordEnd (before ++ (word ++ rest)).toUTF8 (before ++ word).utf8ByteSize n := by
  obtain ⟨text, rfl⟩ : ∃ text, word = String.ofList text := ⟨_, String.ofList_toList.symm⟩
  rw [String.toList_ofList] at h
  induction text generalizing depth before with
  | nil =>
    cases h
    simp
  | cons c text ih =>
    obtain ⟨next, hnext, hbehind⟩ := Option.bind_eq_some_iff.1 h
    have hfirst := wordEnd_singleton hnext before (String.ofList text ++ rest)
    have hothers := ih (before ++ String.singleton c) hbehind
    rw [String.ofList_cons]
    simp only [String.append_assoc] at hfirst hothers ⊢
    rw [hfirst, hothers]

/-- A word ends where the text behind it stops it. -/
theorem wordEnd_append_of_stopsWord (h : Token.bracketsBehind 0 word.toList = some 0)
    (hrest : Token.StopsWord rest.toList) (before : String) :
    wordEnd (before ++ (word ++ rest)).toUTF8 before.utf8ByteSize 0 =
      ((before ++ word).utf8ByteSize, 0) := by
  rw [wordEnd_append h, ← String.append_assoc]
  cases hhead : rest.toList.head? with
  | none =>
    rw [String.toList_eq_nil_iff.1 (List.head?_eq_none_iff.1 hhead)]
    exact wordEnd_of_size_le (by simp)
  | some c =>
    have hbyte := toUTF8_append_getElem?_zero (before ++ word) rest
    rw [hhead] at hbyte
    exact wordEnd_of_none hbyte (by rw [(readAs_firstByte c).bracketsAfter_eq, hrest c hhead])

/-- A word that is not closed goes on to the end of the spelling. -/
theorem wordEnd_append_of_open (h : Token.bracketsBehind 0 word.toList = some n)
    (before : String) :
    wordEnd (before ++ word).toUTF8 before.utf8ByteSize 0 = ((before ++ word).utf8ByteSize, n) := by
  have hend := wordEnd_append h before ""
  rw [String.append_empty] at hend
  rw [hend]
  exact wordEnd_of_size_le (Nat.le_refl _)

/-- A part of a text is cut out of it where it stands. -/
theorem cut?_append (before word rest : String) :
    cut? (before ++ (word ++ rest)) before.utf8ByteSize (before ++ word).utf8ByteSize =
      some word := by
  have hstart : (⟨before.utf8ByteSize⟩ : String.Pos.Raw).IsValid (before ++ (word ++ rest)) :=
    String.Pos.Raw.isValid_iff_exists_append.2 ⟨before, word ++ rest, rfl, rfl⟩
  have hstop : (⟨(before ++ word).utf8ByteSize⟩ : String.Pos.Raw).IsValid
      (before ++ (word ++ rest)) :=
    String.Pos.Raw.isValid_iff_exists_append.2
      ⟨before ++ word, rest, (String.append_assoc ..).symm, rfl⟩
  have hle : before.utf8ByteSize ≤ (before ++ word).utf8ByteSize ∧
      (before ++ word).utf8ByteSize ≤ (before ++ (word ++ rest)).utf8ByteSize := by
    simp only [String.utf8ByteSize_append]
    omega
  rw [cut?, dif_pos ⟨hle, hstart, hstop⟩, Option.some.injEq, ← String.toByteArray_inj]
  change (before ++ (word ++ rest)).toByteArray.extract (before.toByteArray.size + 0)
    (before ++ word).toByteArray.size = word.toByteArray
  rw [String.toByteArray_append, String.toByteArray_append, String.toByteArray_append,
    ByteArray.size_append, ByteArray.extract_append_size_add, ByteArray.extract_append_eq_left rfl]

end Lexeme

end FortranBindings.CxxType
