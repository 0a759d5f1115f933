import FortranBindings.CxxType.Token

/-!
# Tokens in the bytes of a spelling

A spelling is scanned over its bytes in UTF-8, and each token is told together with the bytes that
it takes up. A byte is read as the character with its number, so that no byte of a character that is
not ASCII is taken for a mark, for whitespace or for the start of a word. Such bytes stand in words
all the same, between template brackets.

Brackets are counted without a bound, as in `Token.scanWord`. The text of a word is cut out of the
spelling. A cut in the middle of a character has no result, and the scan stops with
`ScanFault.brokenCharacter`.
-/

namespace FortranBindings.CxxType

/-- A token and the bytes that it takes up: those from `start` on, up to the one before `stop`. -/
structure Lexeme where
  token : Token
  start : Nat
  stop : Nat
  deriving DecidableEq, Repr

/-- Why the scan of some bytes stops. -/
inductive ScanFault
  /-- A word ends between template brackets. -/
  | unbalancedBrackets
  /-- A byte that starts no token. -/
  | unexpected (byte : UInt8)
  /-- A word that begins or ends in the middle of a character. -/
  | brokenCharacter
  deriving DecidableEq, Repr

/-- The reason that is told for a refused spelling, where there is one. A byte is named by the
character with its number. -/
def ScanFault.reason? : ScanFault → Option String
  | unbalancedBrackets => some "unbalanced template brackets"
  | unexpected byte => some ("unexpected character '" ++ (Char.ofUInt8 byte).toString ++ "'")
  | brokenCharacter => none

namespace Lexeme

/-- The text between two bytes, unless one of them is in the middle of a character. -/
def cut? (text : String) (start stop : Nat) : Option String :=
  if h : (start ≤ stop ∧ stop ≤ text.utf8ByteSize) ∧
      (⟨start⟩ : String.Pos.Raw).IsValid text ∧ (⟨stop⟩ : String.Pos.Raw).IsValid text then
    some (String.fromUTF8 (text.toUTF8.extract start stop)
      ((String.Pos.Raw.isValidUTF8_extract_iff ⟨start⟩ ⟨stop⟩ h.1.1 h.1.2).2 (Or.inr h.2)))
  else none

/-- Where a word ends that goes on at byte `i` between `depth` open brackets, and how many brackets
are open there. -/
def wordEnd (bytes : ByteArray) (i depth : Nat) : Nat × Nat :=
  if h : i < bytes.size then
    if Char.ofUInt8 bytes[i] = '<' then wordEnd bytes (i + 1) (depth + 1)
    else if Char.ofUInt8 bytes[i] = '>' then
      if depth = 0 then (i, depth) else wordEnd bytes (i + 1) (depth - 1)
    else if depth = 0 ∧ !Token.isWordChar (Char.ofUInt8 bytes[i]) then (i, depth)
    else wordEnd bytes (i + 1) depth
  else (i, depth)
termination_by bytes.size - i

theorem le_wordEnd (bytes : ByteArray) (i depth : Nat) : i ≤ (wordEnd bytes i depth).1 := by
  fun_induction wordEnd bytes i depth <;> grind

/-- A word takes up the byte that it starts with. -/
theorem lt_wordEnd {bytes : ByteArray} {i : Nat} (h : i < bytes.size)
    (hc : Token.isWordChar (Char.ofUInt8 bytes[i]) = true) : i < (wordEnd bytes i 0).1 := by
  have hopen : Char.ofUInt8 bytes[i] ≠ '<' := fun heq => by simp [heq, Token.isWordChar] at hc
  have hclose : Char.ofUInt8 bytes[i] ≠ '>' := fun heq => by simp [heq, Token.isWordChar] at hc
  rw [wordEnd, dif_pos h, if_neg hopen, if_neg hclose, if_neg (by simp [hc])]
  exact le_wordEnd bytes (i + 1) 0

/-- What is found at byte `i` of a spelling, and the byte behind it. It is a token or whitespace. -/
def step (spelling : String) (i : Nat) (h : i < spelling.toUTF8.size) :
    Except ScanFault (Option Token × Nat) :=
  let byte := spelling.toUTF8[i]
  if Token.isSpace (Char.ofUInt8 byte) then .ok (none, i + 1)
  else if Char.ofUInt8 byte = '*' then .ok (some .star, i + 1)
  else if Char.ofUInt8 byte = '&' then
    if spelling.toUTF8[i + 1]?.map Char.ofUInt8 = some '&' then .ok (some .ampAmp, i + 2)
    else .ok (some .amp, i + 1)
  else if Token.isWordChar (Char.ofUInt8 byte) then
    let found := wordEnd spelling.toUTF8 i 0
    if found.2 ≠ 0 then .error .unbalancedBrackets
    else
      match cut? spelling i found.1 with
      | some text => .ok (some (.word text), found.1)
      | none => .error .brokenCharacter
  else .error (.unexpected byte)

theorem lt_of_step {spelling : String} {i next : Nat} {h : i < spelling.toUTF8.size}
    {token? : Option Token} (hstep : step spelling i h = .ok (token?, next)) : i < next := by
  unfold step at hstep
  have hword := lt_wordEnd h
  grind

/-- The tokens from byte `i` of a spelling on. -/
def scanFrom (spelling : String) (i : Nat) : Except ScanFault (List Lexeme) :=
  if h : i < spelling.toUTF8.size then
    match _hstep : step spelling i h with
    | .ok (some token, next) => (scanFrom spelling next).map (⟨token, i, next⟩ :: ·)
    | .ok (none, next) => scanFrom spelling next
    | .error fault => .error fault
  else .ok []
termination_by spelling.toUTF8.size - i
decreasing_by
  all_goals
    have hlt := lt_of_step _hstep
    omega

/-- The tokens of a spelling. -/
def scan (spelling : String) : Except ScanFault (List Lexeme) :=
  scanFrom spelling 0

end Lexeme

end FortranBindings.CxxType
