import ProofWire.Artifact.Decode
import ProofWire.Proofs.Outcome
import ProofWire.Proofs.Text.Blank

/-! Decimal numerals: they hold no blanks, and a written number reads back. -/

namespace ProofWire

namespace Text

/-- A decimal digit is a hexadecimal one. -/
theorem isHexDigit_of_isDigit {c : Char} (digit : c.isDigit = true) : isHexDigit c = true := by
  -- The decimal digits are the first range of the table.
  simp only [Char.isDigit, ge_iff_le, Bool.and_eq_true, decide_eq_true_eq] at digit
  have range : '0' ≤ c ∧ c ≤ '9' := digit
  simp only [isHexDigit, hexValue?, if_pos range, Option.isSome_some]

/-- The code of a hexadecimal digit lies in one of three short ranges. -/
theorem toNat_of_isHexDigit {c : Char} (digit : isHexDigit c = true) :
    (48 ≤ c.toNat ∧ c.toNat ≤ 57) ∨ (97 ≤ c.toNat ∧ c.toNat ≤ 102) ∨ (65 ≤ c.toNat ∧ c.toNat ≤ 70) := by
  -- The table has three ranges, which are tried in order.
  simp only [isHexDigit, hexValue?, Char.le_def, UInt32.le_iff_toNat_le] at digit
  split at digit
  · rename_i range; exact Or.inl range
  · split at digit
    · rename_i range; exact Or.inr (Or.inl range)
    · split at digit
      · rename_i range; exact Or.inr (Or.inr range)
      · simp at digit

/-- A digit is no blank. -/
theorem isBlank_of_isHexDigit {c : Char} (digit : isHexDigit c = true) : isBlank c = false := by
  -- No range of blanks meets a range of digits.
  have code := toNat_of_isHexDigit digit
  simp only [isBlank, inRanges, blankRanges, List.any_cons, List.any_nil, Bool.or_false,
    Bool.or_eq_false_iff, Bool.and_eq_false_iff, decide_eq_false_iff_not]
  omega

/-- A decimal numeral is no hexadecimal one, for its second character is a digit. -/
theorem isHex_of_isDecimal {text : List Char} (decimal : isDecimal text = true) : isHex text = false := by
  -- The second character of a hexadecimal numeral is a letter.
  unfold isHex
  split
  · rename_i mark digits
    simp only [isDecimal, List.all_cons, Bool.and_eq_true] at decimal
    have digit := toNat_of_isHexDigit (isHexDigit_of_isDigit decimal.2.2.1)
    have noMark : mark ≠ 'x' ∧ mark ≠ 'X' := by
      constructor <;> (rintro rfl; revert digit; decide)
    simp [noMark]
  · rfl

/-- A decimal numeral holds no blank. -/
theorem isBlank_of_isDecimal {text : List Char} (decimal : isDecimal text = true) :
    ∀ c ∈ text, isBlank c = false := by
  -- A numeral consists of digits, and no digit is a blank.
  intro c member
  simp only [isDecimal, Bool.and_eq_true, List.all_eq_true] at decimal
  exact isBlank_of_isHexDigit (isHexDigit_of_isDigit (decimal.2 c member))

/-- A written number is a decimal numeral. -/
theorem isDecimal_toDigits (number : Nat) : isDecimal (Nat.toDigits 10 number) = true := by
  simp only [isDecimal, Bool.and_eq_true, Bool.not_eq_true', List.isEmpty_eq_false_iff, List.all_eq_true]
  exact ⟨Nat.toDigits_ne_nil, fun c member => Nat.isDigit_of_mem_toDigits (by decide) (by decide) member⟩

/-- A written number begins with zero only when it is zero. -/
theorem head?_toDigits {number : Nat} (leading : (Nat.toDigits 10 number).head? = some '0') : number = 0 := by
  -- All digits but the last are those of the quotient by ten.
  induction number using Nat.strongRecOn with
  | _ number ih =>
    by_cases small : number < 10
    · simpa [Nat.toDigits_of_lt_base small] using leading
    · rw [Nat.toDigits_of_base_le (by decide) (by omega), List.head?_append_of_ne_nil _ Nat.toDigits_ne_nil]
        at leading
      have quotient := ih (number / 10) (by omega) leading
      omega

/-- Text is the numeral of a number: decimal digits of its value, without a leading zero. -/
structure IsCanonical (text : String) (number : Nat) : Prop where
  isDecimal : Text.isDecimal text.toList = true
  value : Text.decimalValue text.toList = number
  noLeadingZero : text.toList.head? = some '0' → text = "0"

/-- The text of a number is its numeral. -/
theorem isCanonical_toString (number : Nat) : IsCanonical (toString number) number where
  -- The library writes a number as its digits, from which it is read back.
  isDecimal := by rw [Nat.toString_eq_repr, Nat.toList_repr]; exact isDecimal_toDigits number
  value := by rw [Nat.toString_eq_repr, Nat.toList_repr]; exact Nat.ofDigitChars_ten_toDigits
  noLeadingZero := by
    intro leading
    rw [Nat.toString_eq_repr, Nat.toList_repr] at leading
    rw [head?_toDigits leading]
    rfl

/-- Numbers that are written have so many digits at most. -/
theorem decimalBound_eq : decimalBound = 10 ^ maxDigits := by
  -- The power itself is far too large to be computed.
  unfold decimalBound
  generalize maxDigits = digits
  rfl

/-- Numbers of a field word are far below the longest decimal that is written. -/
theorem fieldBound_le_decimalBound : Word.fieldBound ≤ decimalBound := by
  -- A power of ten between the two bounds keeps the numbers small.
  calc
    Word.fieldBound ≤ 10 ^ 96 := by decide
    _ ≤ 10 ^ maxDigits := Nat.pow_le_pow_right (by decide) (by decide)
    _ = decimalBound := decimalBound_eq.symm

/-- A natural number below the bound is written. -/
theorem decimal?_natCast {number : Nat} (bounded : number < decimalBound) :
    decimal? number = some (toString number) := by
  simp only [decimal?, Int.natAbs_natCast, if_pos bounded]
  rfl

/-- A number has no text exactly when it has more digits than are written. -/
theorem decimal?_eq_none_iff {number : Int} : decimal? number = none ↔ decimalBound ≤ number.natAbs := by
  simp [decimal?]

/-- From the bound on, a number has no text. -/
theorem decimal?_eq_none {number : Nat} (long : decimalBound ≤ number) : decimal? number = none :=
  decimal?_eq_none_iff.mpr (by simpa using long)

end Text

/-- A decimal numeral is read as itself. -/
theorem Literal.ofText_of_isDecimal {text : String} (decimal : Text.isDecimal text.toList = true) :
    Literal.ofText text = .ok (.decimal ⟨text, decimal⟩) := by
  -- No blank is dropped, and the test for a hexadecimal numeral, which comes first, fails.
  have stripped : Text.strip text.toList = text.toList := Text.strip_of_solid (Text.isBlank_of_isDecimal decimal)
  have filled : text.toList.isEmpty = false := by
    simp only [Text.isDecimal, Bool.and_eq_true, Bool.not_eq_true'] at decimal
    exact decimal.1
  simp [Literal.ofText, stripped, filled, Text.isHex_of_isDecimal decimal, decimal]

/-- The decimal text of a number denotes that number. -/
theorem Decode.natural_decimal {number : Nat} (bounded : number < Text.decimalBound) :
    (Decode.decimal number).natural = .ok number := by
  -- The numeral has few enough digits to be read.
  rw [Text.decimalBound_eq] at bounded
  have canonical := Text.isCanonical_toString number
  have short : (toString number).toList.length ≤ Text.maxDigits := by
    rw [Nat.toString_eq_repr, Nat.toList_repr]
    exact (Nat.length_toDigits_le_iff (by decide) (by decide)).mpr bounded
  show (Literal.ofText (toString number) >>= Literal.value) = .ok number
  rw [Literal.ofText_of_isDecimal canonical.isDecimal]
  simp only [Bind.bind, Except.bind, Literal.value, if_pos short, canonical.value]

end ProofWire
