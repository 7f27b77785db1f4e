import ProofWire.Binary64.Basic

/-! The shortest decimal that reads back as a given double-precision number. -/

namespace ProofWire.Binary64

/-- A decimal: whole digits scaled by a power of ten. -/
structure Decimal where
  digits : Nat
  exponent : Int

/-- The numbers that round to a finite number: its value and the two ends over one denominator. -/
structure Neighbourhood where
  lower : Nat
  value : Nat
  upper : Nat
  denominator : Nat
  closed : Bool

/-- The interval around a finite number; it narrows below a power of two, and an even significand owns its ends. -/
def neighbourhood (x : Binary64) : Neighbourhood :=
  let significand := x.significand
  let below := if x.fraction = 0 ∧ 1 < x.exponentField then 1 else 2
  let place := x.exponent - 2
  let up := Nat.pow 2 place.toNat
  ⟨(4 * significand - below) * up, 4 * significand * up, (4 * significand + 2) * up,
    Nat.pow 2 (-place).toNat, significand % 2 == 0⟩

/-- The exponent of the leading decimal digit of a positive fraction. -/
def leadingExponent (numerator denominator : Nat) : Int :=
  let guess : Int := ((toString numerator).length : Int) - ((toString denominator).length : Int)
  -- The two lengths fix the size of the fraction up to a factor of ten.
  if denominator * Nat.pow 10 guess.toNat ≤ numerator * Nat.pow 10 (-guess).toNat then guess else guess - 1

/-- The point of a decimal grid inside the interval that lies nearest to the value, an even one on a tie. -/
def nearestOnGrid? (around : Neighbourhood) (exponent : Int) : Option Decimal :=
  let up := around.denominator * Nat.pow 10 exponent.toNat
  let scale := Nat.pow 10 (-exponent).toNat
  let value := around.value * scale
  let inside (digits : Nat) : Bool :=
    let point := digits * up
    if around.closed then around.lower * scale ≤ point && point ≤ around.upper * scale
    else around.lower * scale < point && point < around.upper * scale
  let low := value / up
  let lowError := value - low * up
  let highError := (low + 1) * up - value
  match inside low && low != 0, inside (low + 1) with
  | false, false => none
  | true, false => some ⟨low, exponent⟩
  | false, true => some ⟨low + 1, exponent⟩
  | true, true =>
    if lowError < highError ∨ lowError = highError ∧ low % 2 = 0 then some ⟨low, exponent⟩
    else some ⟨low + 1, exponent⟩

/-- The decimal with the fewest digits that reads back as a finite positive number. -/
def shortest (x : Binary64) : Decimal :=
  let around := x.neighbourhood
  let leading := leadingExponent around.value around.denominator
  let grids := (List.range 17).map fun (count : Nat) => leading - (count : Int)
  (grids.findSome? (nearestOnGrid? around)).getD ⟨0, 0⟩

/-- The digits of a decimal without the zeros at the end, and the place of its point after the first digit. -/
def Decimal.normal (decimal : Decimal) : List Char × Int :=
  let digits := Nat.toDigits 10 decimal.digits
  let leading := decimal.exponent + (digits.length : Int) - 1
  let significant := (digits.reverse.dropWhile (· == '0')).reverse
  (if significant.isEmpty then ['0'] else significant, leading)

/-- An exponent has a sign and at least two digits. -/
def exponentText (exponent : Int) : List Char :=
  let digits := Nat.toDigits 10 exponent.natAbs
  (if exponent < 0 then '-' else '+') :: (if digits.length < 2 then '0' :: digits else digits)

/-- Digits are written positionally from ten to the minus fourth up to below ten to the sixteenth, else with an exponent. -/
def layout (digits : List Char) (leading : Int) : List Char :=
  if leading < -4 ∨ 16 ≤ leading then
    digits.take 1 ++ (if digits.length = 1 then [] else '.' :: digits.drop 1)
      ++ 'e' :: exponentText leading
  else if leading < 0 then
    '0' :: '.' :: List.replicate (-leading - 1).toNat '0' ++ digits
  else
    let whole := leading.toNat + 1
    let padded := digits ++ List.replicate (whole - digits.length) '0'
    let rest := padded.drop whole
    padded.take whole ++ '.' :: (if rest.isEmpty then ['0'] else rest)

/-- The text of a number: the shortest decimal that reads back, with its sign. -/
def text (x : Binary64) : String :=
  if x.isNaN then "nan"
  else
    let body :=
      if !x.isFinite then "inf".toList
      else if x.significand = 0 then "0.0".toList
      else
        let (digits, leading) := x.shortest.normal
        layout digits leading
    String.ofList (if x.isNegative then '-' :: body else body)

end ProofWire.Binary64
