/-! Double-precision numbers as their bits: a sign, an exponent and a significand. -/

namespace ProofWire

/-- A double-precision number, given by its sixty-four bits. -/
structure Binary64 where
  bits : UInt64
deriving DecidableEq, Inhabited

namespace Binary64

/-- The sign bit. -/
def isNegative (x : Binary64) : Bool :=
  Nat.pow 2 63 ≤ x.bits.toNat

/-- The eleven exponent bits. -/
def exponentField (x : Binary64) : Nat :=
  x.bits.toNat / Nat.pow 2 52 % Nat.pow 2 11

/-- The fifty-two fraction bits. -/
def fraction (x : Binary64) : Nat :=
  x.bits.toNat % Nat.pow 2 52

/-- A number is finite unless all its exponent bits are set. -/
def isFinite (x : Binary64) : Bool :=
  x.exponentField < 2047

/-- All exponent bits with a fraction mark a value that is no number. -/
def isNaN (x : Binary64) : Bool :=
  x.exponentField == 2047 && x.fraction != 0

/-- The whole number which, scaled by two to the `exponent`, is the magnitude of a finite number. -/
def significand (x : Binary64) : Nat :=
  if x.exponentField = 0 then x.fraction else Nat.pow 2 52 + x.fraction

/-- The power of two that scales the significand. -/
def exponent (x : Binary64) : Int :=
  if x.exponentField = 0 then -1074 else (x.exponentField : Int) - 1075

/-- The magnitude of a finite number as a fraction of natural numbers. -/
def magnitude (x : Binary64) : Nat × Nat :=
  if 0 ≤ x.exponent then (x.significand * Nat.pow 2 x.exponent.toNat, 1)
  else (x.significand, Nat.pow 2 (-x.exponent).toNat)

/-- The sign applied to a magnitude. -/
def signed (x : Binary64) (size : Nat) : Int :=
  if x.isNegative then -size else size

/-- The whole number that a finite number equals, if it is one. -/
def integer? (x : Binary64) : Option Int :=
  let (numerator, denominator) := x.magnitude
  if x.isFinite && numerator % denominator == 0 then some (x.signed (numerator / denominator))
  else none

/-- A number lies between zero and a bound, both included. -/
def isWithin (x : Binary64) (bound : Nat) : Bool :=
  let (numerator, denominator) := x.magnitude
  x.isFinite && (numerator == 0 || !x.isNegative) && numerator ≤ bound * denominator

/-- A number is zero, of either sign. -/
def isZero (x : Binary64) : Bool :=
  x.isFinite && x.significand == 0

/-- The quiet value that is no number. -/
def nan : Binary64 := ⟨0x7ff8000000000000⟩

/-- The value beyond all finite numbers, of the given sign. -/
def infinity (negative : Bool) : Binary64 :=
  ⟨if negative then 0xfff0000000000000 else 0x7ff0000000000000⟩

end Binary64

end ProofWire
