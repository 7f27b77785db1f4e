import Mathlib
import ProofWire.Binary64.Basic

/-! The exact value of a finite double, and the whole numbers among these values. -/

namespace ProofWire.Binary64

/-- The sign as a factor. -/
def sign (x : Binary64) : ℚ :=
  if x.isNegative then -1 else 1

/--
The number that a finite double stands for.

It is one plus the fraction, scaled by two to the exponent less its bias. Without exponent bits it is the fraction alone,
at the lowest scale.
-/
def toRat (x : Binary64) : ℚ :=
  if x.exponentField = 0 then x.sign * (x.fraction / 2 ^ 52 * 2 ^ (-1022 : ℤ))
  else x.sign * ((1 + x.fraction / 2 ^ 52) * 2 ^ ((x.exponentField : ℤ) - 1023))

/-- The fraction bits can be counted in units of the last of them. -/
theorem scale_eq (exponent : ℤ) : (2 : ℚ) ^ (exponent + 52) = 2 ^ exponent * 2 ^ 52 := by
  rw [zpow_add₀ two_ne_zero]
  rfl

/-- A finite double stands for its significand, scaled and signed. -/
theorem toRat_eq (x : Binary64) : x.toRat = x.sign * (x.significand * 2 ^ x.exponent) := by
  -- Without exponent bits the leading one is missing, so the two formats are compared one by one.
  unfold toRat significand exponent
  split
  · rw [show (-1022 : ℤ) = -1074 + 52 by rfl, scale_eq]
    field_simp
  · rw [show (x.exponentField : ℤ) - 1023 = x.exponentField - 1075 + 52 by ring, scale_eq]
    push_cast [Nat.pow_eq]
    field_simp
    norm_num

/-- The magnitude of a double is a proper fraction of natural numbers. -/
theorem magnitude_pos (x : Binary64) : 0 < x.magnitude.2 := by
  -- The denominator is one or a power of two.
  unfold magnitude
  split
  · exact Nat.one_pos
  · exact Nat.two_pow_pos _

/-- This fraction is the scaled significand. -/
theorem magnitude_eq (x : Binary64) : (x.magnitude.1 : ℚ) / x.magnitude.2 = x.significand * 2 ^ x.exponent := by
  unfold magnitude
  split
  · rename_i scaledUp
    -- A scale that is no fraction is a natural power.
    have power : (2 : ℚ) ^ x.exponent = 2 ^ x.exponent.toNat := by
      rw [← zpow_natCast, Int.toNat_of_nonneg scaledUp]
    push_cast [Nat.pow_eq, power]
    exact div_one _
  · rename_i scaledDown
    have power : (2 : ℚ) ^ x.exponent = (2 ^ (-x.exponent).toNat)⁻¹ := by
      rw [← zpow_natCast, Int.toNat_of_nonneg (by omega), zpow_neg, inv_inv]
    push_cast [Nat.pow_eq, power]
    exact div_eq_mul_inv _ _

/-- A signed magnitude is the magnitude times the sign. -/
theorem signed_eq (x : Binary64) (size : Nat) : (x.signed size : ℚ) = x.sign * size := by
  unfold signed sign
  split <;> simp

/-- A magnitude whose signed value is whole is a natural number. -/
theorem exists_size {x : Binary64} {size : ℚ} {whole : Int} (unsigned : 0 ≤ size) (same : x.sign * size = whole) :
    ∃ number : Nat, size = number ∧ whole = x.signed number := by
  unfold sign at same
  unfold signed
  split at same
  · -- The number is the opposite of a negative one.
    have opposite : size = (-whole : ℤ) := by
      push_cast
      linarith
    have natural : 0 ≤ -whole := by
      rw [opposite] at unsigned
      exact_mod_cast unsigned
    obtain ⟨number, counted⟩ := Int.eq_ofNat_of_zero_le natural
    refine ⟨number, by rw [opposite, counted]; rfl, ?_⟩
    rw [if_pos ‹_›]
    omega
  · rw [one_mul] at same
    have natural : 0 ≤ whole := by
      rw [same] at unsigned
      exact_mod_cast unsigned
    obtain ⟨number, counted⟩ := Int.eq_ofNat_of_zero_le natural
    refine ⟨number, by rw [same, counted]; rfl, ?_⟩
    rw [if_neg ‹_›]
    exact counted

/-- A double is read as a whole number exactly when it is finite and stands for that number. -/
theorem integer?_eq_some_iff {x : Binary64} {whole : Int} :
    x.integer? = some whole ↔ x.isFinite = true ∧ x.toRat = whole := by
  have positive : (x.magnitude.2 : ℚ) ≠ 0 := by exact_mod_cast (magnitude_pos x).ne'
  rw [toRat_eq, ← magnitude_eq]
  simp only [integer?, Bool.and_eq_true, beq_iff_eq]
  constructor
  · intro read
    split at read
    · rename_i exact
      refine ⟨exact.1, ?_⟩
      rw [← Option.some.inj read, signed_eq, Nat.cast_div (Nat.dvd_of_mod_eq_zero exact.2) positive]
    · cases read
  · intro ⟨finite, same⟩
    -- A whole magnitude is a multiple of its denominator, so that nothing remains of the division.
    obtain ⟨size, sized, signed⟩ := exists_size (by positivity) same
    have product : x.magnitude.1 = size * x.magnitude.2 := by
      rw [div_eq_iff positive] at sized
      exact_mod_cast sized
    rw [product, Nat.mul_mod_left, Nat.mul_div_cancel _ (magnitude_pos x), if_pos ⟨finite, rfl⟩, signed]

end ProofWire.Binary64
