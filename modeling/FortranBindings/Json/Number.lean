import FortranBindings.Json.Basic

/-!
# Numbers in JSON texts

A number is read from left to right into a significand of 64 bits and a power of ten: digits that do
not fit into the significand any more only count for the power if they stand in front of the point,
and not at all behind it. The number is too large to be read if the product of the two, each of them
rounded to a float, is. Rounding twice puts the limit near the largest float, on either side of it.
-/

namespace FortranBindings.Json

/-- The value of a decimal digit. -/
def digitValue (c : Char) : Nat := c.toNat - '0'.toNat

/-- The number that decimal digits write. -/
def naturalOfDigits (digits : List Char) : Nat :=
  digits.foldl (fun n c => n * 10 + digitValue c) 0

/-- The digits at the start of a text, and what follows them. -/
def spanDigits (text : List Char) : List Char × List Char :=
  text.span Char.isDigit

/-! ## The limit -/

/-- Put digits behind a significand up to the first one that does not fit, and count those that are
left. -/
def takeDigits (significand : Nat) : List Char → Nat × Nat
  | [] => (significand, 0)
  | c :: rest =>
    let next := significand * 10 + digitValue c
    if next < Nat.pow 2 64 then takeDigits next rest else (significand, rest.length + 1)

/-- The nearest number with at most 53 binary digits in front of its zeros; of two that are as near,
the one whose last digit is even. -/
def nearestFloat (n : Nat) : Nat :=
  let unit := Nat.pow 2 (n.log2 - 52)
  let digits := n / unit
  let rest := n % unit
  if 2 * rest < unit || (2 * rest == unit && digits % 2 == 0) then digits * unit
  else (digits + 1) * unit

/-- The least number that is not rounded to a float with eleven bits of exponent. -/
def floatLimit : Nat := Nat.pow 2 1024 - Nat.pow 2 970

/-- Is a significand with a power of ten too large for a float? Powers that settle the question by
themselves are not multiplied out. -/
def isTooLarge (significand : Nat) : Int → Bool
  | .ofNat power =>
    significand != 0 &&
      (308 < power ||
        floatLimit ≤ nearestFloat significand * nearestFloat (Nat.pow 10 power))
  | .negSucc _ => false

/-- Is a number too large for a float, written with these digits in front of the point and behind it
and this exponent? -/
def overflows (digits fraction : List Char) (exponent : Int) : Bool :=
  let (whole, left) := takeDigits 0 digits
  let (significand, unused) := takeDigits whole fraction
  isTooLarge significand (exponent + left - (fraction.length - unused : Nat))

/-! ## Reading -/

/-- The exponent at the start of a text: `some 0` if there is none, `none` if it has no digits. -/
def exponent? : List Char → Option (Bool × Int × List Char)
  | c :: rest =>
    if c = 'e' ∨ c = 'E' then
      let (negative, rest) :=
        match rest with
        | '-' :: rest => (true, rest)
        | '+' :: rest => (false, rest)
        | rest => (false, rest)
      match spanDigits rest with
      | ([], _) => none
      | (digits, rest) =>
        let n : Int := naturalOfDigits digits
        some (true, if negative then -n else n, rest)
    else some (false, 0, c :: rest)
  | [] => some (false, 0, [])

/-- The fraction at the start of a text: no digits if there is none, `none` if its digits lack. -/
def fraction? : List Char → Option (List Char × List Char)
  | '.' :: rest =>
    match spanDigits rest with
    | ([], _) => none
    | (digits, rest) => some (digits, rest)
  | rest => some ([], rest)

/-- The number at the start of a text behind its sign, and the text behind it. A number does not
start with a zero that another digit follows. -/
def number? (negative : Bool) (text : List Char) : Option (Json × List Char) := do
  let (digits, rest) := spanDigits text
  if digits = [] ∨ (digits.head? = some '0' ∧ 1 < digits.length) then none
  let (fraction, rest) ← fraction? rest
  let (hasExponent, exponent, rest) ← exponent? rest
  if overflows digits fraction exponent then return (unreadable, rest)
  let whole := naturalOfDigits digits
  if hasExponent ∨ fraction ≠ [] ∨ (negative ∧ whole = 0) then
    let spelling := text.take (text.length - rest.length)
    return (real (String.ofList (if negative then '-' :: spelling else spelling)), rest)
  return (integer (if negative then -whole else whole), rest)

end FortranBindings.Json
