/-! Numerals: decimal and hexadecimal texts, their values, and the longest decimal that is written. -/

namespace ProofWire.Text

/-- The value of a hexadecimal digit of either case. -/
def hexValue? (c : Char) : Option Nat :=
  if '0' ≤ c ∧ c ≤ '9' then some (c.toNat - '0'.toNat)
  else if 'a' ≤ c ∧ c ≤ 'f' then some (c.toNat - 'a'.toNat + 10)
  else if 'A' ≤ c ∧ c ≤ 'F' then some (c.toNat - 'A'.toNat + 10)
  else none

/-- An ASCII digit in base sixteen. -/
def isHexDigit (c : Char) : Bool :=
  (hexValue? c).isSome

/-- A decimal numeral is one or more ASCII digits. -/
def isDecimal (text : List Char) : Bool :=
  !text.isEmpty && text.all Char.isDigit

/-- A hexadecimal numeral is the mark `0x` or `0X` before one or more digits of either case. -/
def isHex : List Char → Bool
  | '0' :: mark :: digits =>
    (mark == 'x' || mark == 'X') && !digits.isEmpty && digits.all isHexDigit
  | _ => false

/-- The number that a row of digits denotes in base ten. -/
def decimalValue (digits : List Char) : Nat :=
  Nat.ofDigitChars 10 digits 0

/-- The number that a row of digits denotes in base sixteen. -/
def hexValue (digits : List Char) : Nat :=
  digits.foldl (fun value c => 16 * value + (hexValue? c).getD 0) 0

/-- Decimal text is neither read nor written beyond this many digits. -/
def maxDigits : Nat := 4300

/-- Numbers from here on have more digits than are written. -/
def decimalBound : Nat := Nat.pow 10 maxDigits

/-- The decimal text of a number, unless it has too many digits. -/
def decimal? (value : Int) : Option String :=
  if value.natAbs < decimalBound then some (toString value) else none

end ProofWire.Text
