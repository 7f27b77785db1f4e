import ProofWire.Binary64.Basic

/-! The double-precision number nearest to a decimal. -/

namespace ProofWire.Binary64

/-- The quotient rounded to the nearest whole number, a half to the even neighbour. -/
def roundDiv (numerator denominator : Nat) : Nat :=
  let quotient := numerator / denominator
  let twice := 2 * (numerator % denominator)
  if twice < denominator then quotient
  else if denominator < twice then quotient + 1
  else quotient + quotient % 2

/-- The sign bit in place. -/
def signBit (negative : Bool) : Nat :=
  if negative then Nat.pow 2 63 else 0

/-- The power of two of the last place of a positive fraction, before the lower bound. -/
def lastPlace (numerator denominator : Nat) : Int :=
  let guess : Int := (Nat.log2 numerator : Int) - (Nat.log2 denominator : Int) - 52
  -- The two logarithms fix the size of the fraction up to a factor of two.
  let scaled := if 0 ≤ guess then (numerator, denominator * Nat.pow 2 guess.toNat)
    else (numerator * Nat.pow 2 (-guess).toNat, denominator)
  if scaled.1 < scaled.2 * Nat.pow 2 52 then guess - 1 else guess

/-- The number nearest to a positive fraction; beyond the largest one it is infinite. -/
def ofFraction (negative : Bool) (numerator denominator : Nat) : Binary64 :=
  let place := max (lastPlace numerator denominator) (-1074)
  let significand :=
    if 0 ≤ place then roundDiv numerator (denominator * Nat.pow 2 place.toNat)
    else roundDiv (numerator * Nat.pow 2 (-place).toNat) denominator
  -- A subnormal significand has no leading bit to take away, and its place is the lowest one.
  let magnitude := (place + 1074).toNat * Nat.pow 2 52 + significand
  if 0x7ff0000000000000 ≤ magnitude then infinity negative
  else ⟨UInt64.ofNat (signBit negative + magnitude)⟩

/-- The number nearest to `digits` times ten to the `exponent`. -/
def ofDecimal (negative : Bool) (digits : Nat) (exponent : Int) : Binary64 :=
  let size := (toString digits).length + exponent
  if digits = 0 ∨ size < -330 then ⟨UInt64.ofNat (signBit negative)⟩
  else if 310 < size then infinity negative
  else if 0 ≤ exponent then ofFraction negative (digits * Nat.pow 10 exponent.toNat) 1
  else ofFraction negative digits (Nat.pow 10 (-exponent).toNat)

end ProofWire.Binary64
