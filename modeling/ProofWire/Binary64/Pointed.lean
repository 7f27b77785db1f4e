import ProofWire.Binary64.Nearest
import ProofWire.Binary64.Shortest

/-! Double-precision numbers with so many decimal places, or with so many significant digits. -/

namespace ProofWire.Binary64

/-- Decimal places after their point; without places the point stays only where it is asked for. -/
def afterPoint (keepsPoint : Bool) (places : List Char) : List Char :=
  if places.isEmpty then (if keepsPoint then ['.'] else []) else '.' :: places

/-- Digits without the zeros at their end. -/
def withoutZeros (digits : List Char) : List Char :=
  (digits.reverse.dropWhile (· == '0')).reverse

/-- The whole digits of a fraction and so many of its decimal places, of which the last one is rounded. -/
def wholeAndPlaces (numerator denominator places : Nat) : List Char × List Char :=
  let digits := Nat.toDigits 10 (roundDiv (numerator * Nat.pow 10 places) denominator)
  let padded := List.replicate (places + 1 - digits.length) '0' ++ digits
  padded.splitAt (padded.length - places)

/-- So many significant digits of a fraction, of which the last one is rounded, and the exponent of the first one. -/
def significantDigits (numerator denominator count : Nat) : List Char × Int :=
  if numerator = 0 then (List.replicate count '0', 0)
  else
    let leading := leadingExponent numerator denominator
    let place := leading + 1 - (count : Int)
    let rounded := roundDiv (numerator * Nat.pow 10 (-place).toNat) (denominator * Nat.pow 10 place.toNat)
    -- Nines that are rounded up make one digit more.
    if rounded = Nat.pow 10 count then (Nat.toDigits 10 (rounded / 10), leading + 1)
    else (Nat.toDigits 10 rounded, leading)

/-- A fraction with a fixed count of decimal places. -/
def fixedText (places : Nat) (keepsPoint : Bool) (numerator denominator : Nat) : List Char :=
  let (whole, fraction) := wholeAndPlaces numerator denominator places
  whole ++ afterPoint keepsPoint fraction

/-- A fraction with one digit before its point, a count of decimal places and an exponent. -/
def exponentialText (places : Nat) (keepsPoint : Bool) (numerator denominator : Nat) : List Char :=
  let (digits, exponent) := significantDigits numerator denominator (places + 1)
  digits.take 1 ++ afterPoint keepsPoint (digits.drop 1) ++ 'e' :: exponentText exponent

/-- A fraction with `count` significant digits, by an exponent when it is small or when they do not reach its unit;
zeros at the end show only where the point is kept. -/
def generalText (count : Nat) (keepsPoint : Bool) (numerator denominator : Nat) : List Char :=
  let count := max count 1
  let (digits, exponent) := significantDigits numerator denominator count
  let shown (places : List Char) : List Char :=
    afterPoint keepsPoint (if keepsPoint then places else withoutZeros places)
  if -4 ≤ exponent ∧ exponent < (count : Int) then
    let (whole, fraction) := wholeAndPlaces numerator denominator ((count : Int) - 1 - exponent).toNat
    whole ++ shown fraction
  else digits.take 1 ++ shown (digits.drop 1) ++ 'e' :: exponentText exponent

/-- The text of a number without its sign, where finite ones are written from their magnitude. -/
def unsignedText (x : Binary64) (write : Nat → Nat → List Char) : List Char :=
  if x.isNaN then "nan".toList
  else if x.isFinite then write x.magnitude.1 x.magnitude.2
  else "inf".toList

/-- A minus stands before a number with its sign bit set, unless it is no number. -/
def showsMinus (x : Binary64) : Bool :=
  x.isNegative && !x.isNaN

end ProofWire.Binary64
