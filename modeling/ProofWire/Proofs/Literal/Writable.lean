import ProofWire.Proofs.Text.Numeral

/-! Writable values: numbers short enough for a message, so that reading a literal can say what it refuses. -/

namespace ProofWire

/-- A row of digits denotes less than the power of ten of its length. -/
theorem Text.decimalValue_lt {digits : List Char} (decimal : ∀ c ∈ digits, c.isDigit = true) :
    Text.decimalValue digits < 10 ^ digits.length := by
  -- The first digit weighs a power of ten, and the rest stays below that power.
  unfold Text.decimalValue
  induction digits with
  | nil => decide
  | cons first rest ih =>
    have tail := ih fun c member => decimal c (List.mem_cons_of_mem _ member)
    have leading : first.isDigit = true := decimal first List.mem_cons_self
    have small : first.toNat - '0'.toNat ≤ 9 := by
      simp only [Char.isDigit, ge_iff_le, Bool.and_eq_true, decide_eq_true_eq, UInt32.le_iff_toNat_le]
        at leading
      have upper : first.toNat ≤ 57 := leading.2
      show first.toNat - 48 ≤ 9
      omega
    have weighed : 10 ^ rest.length * (first.toNat - '0'.toNat) ≤ 10 ^ rest.length * 9 :=
      Nat.mul_le_mul_left _ small
    rw [Nat.ofDigitChars_cons, Nat.ofDigitChars_eq_ofDigitChars_zero, List.length_cons, Nat.pow_succ]
    simp only [Nat.mul_zero, Nat.zero_add]
    omega

namespace Binary64

/-- The magnitude of a finite double, rounded down, is a significand shifted by a limited exponent. -/
theorem exists_magnitude_div_lt {x : Binary64} (finite : x.exponentField < 2047) :
    ∃ shift ≤ 971, x.magnitude.1 / x.magnitude.2 < 2 ^ 53 * 2 ^ shift := by
  have fractionBound : x.fraction < 2 ^ 52 := Nat.mod_lt _ (by decide)
  have significandBound : x.significand < 2 ^ 53 := by
    simp only [significand, Nat.pow_eq]
    split <;> omega
  have scale : x.exponent.toNat ≤ 971 := by
    unfold exponent
    split <;> omega
  simp only [magnitude, Nat.pow_eq]
  split
  · rw [Nat.div_one]
    exact ⟨x.exponent.toNat, scale, Nat.mul_lt_mul_of_pos_right significandBound (Nat.two_pow_pos _)⟩
  · -- A divisor only makes the significand smaller.
    refine ⟨0, by decide, ?_⟩
    rw [Nat.pow_zero, Nat.mul_one]
    exact Nat.lt_of_le_of_lt (Nat.div_le_self _ _) significandBound

/-- The whole number that a double equals has far fewer digits than are written. -/
theorem natAbs_lt_decimalBound {x : Binary64} {whole : Int} (equal : x.integer? = some whole) :
    whole.natAbs < Text.decimalBound := by
  simp only [integer?] at equal
  split at equal
  · rename_i exact
    have finite : x.exponentField < 2047 := by
      simp only [Bool.and_eq_true, isFinite, decide_eq_true_eq] at exact
      exact exact.1
    obtain ⟨shift, limited, bounded⟩ := exists_magnitude_div_lt finite
    have size : whole.natAbs < 2 ^ 53 * 2 ^ shift := by
      rw [← Option.some.inj equal]
      unfold signed
      split <;> simpa only [Int.natAbs_neg, Int.natAbs_natCast] using bounded
    have few : 53 + shift ≤ Text.maxDigits := by
      simp only [Text.maxDigits]
      omega
    -- Powers of ten instead of those of two leave one exponent to compare.
    calc
      whole.natAbs < 2 ^ 53 * 2 ^ shift := size
      _ ≤ 10 ^ 53 * 10 ^ shift :=
        Nat.mul_le_mul (Nat.pow_le_pow_left (by decide) _) (Nat.pow_le_pow_left (by decide) _)
      _ = 10 ^ (53 + shift) := (Nat.pow_add _ _ _).symm
      _ ≤ 10 ^ Text.maxDigits := Nat.pow_le_pow_right (by decide) few
      _ = Text.decimalBound := Text.decimalBound_eq.symm
  · cases equal

end Binary64

/-- A whole number below the bound is written. -/
theorem Text.exists_decimal? {value : Int} (short : value.natAbs < Text.decimalBound) :
    ∃ text, Text.decimal? value = some text :=
  ⟨toString value, by rw [Text.decimal?, if_pos short]⟩

/-- The numbers of a literal are short; decimal text is limited where it is read. -/
def Literal.IsShort : Literal → Prop
  | .integer value | .unitFraction value => value < Text.decimalBound
  | .decimal _ => True
  | .hex numeral => Text.hexValue numeral.digits < Text.decimalBound
  | .nonUnitFraction numerator denominator =>
    numerator < Text.decimalBound ∧ denominator < Text.decimalBound

namespace Value

/-- A value is met within another: as it itself, in one of its items or below one of its keys. -/
inductive Occurs (inner : Value) : Value → Prop where
  | self : Occurs inner inner
  | item {source item : Value} {items : List Value} (given : source.items? = some items)
    (member : item ∈ items) (within : Occurs inner item) : Occurs inner source
  | entry {entries : List (String × Value)} {key : String} {value : Value}
    (member : (key, value) ∈ entries) (within : Occurs inner value) : Occurs inner (.object entries)

/-- The number that a value is or spells in hexadecimal is short. -/
def IsShort : Value → Prop
  | .int number => number.natAbs < Text.decimalBound
  | .text source =>
    Text.isHex (Text.strip source.toList) = true →
      Text.hexValue ((Text.strip source.toList).drop 2) < Text.decimalBound
  | .literal spelled => spelled.IsShort
  | _ => True

/-- Every number within a value, whole or spelled in hexadecimal, has a decimal text. -/
def Writable (source : Value) : Prop :=
  ∀ inner, Occurs inner source → inner.IsShort

/-- What is met within a part is met within the whole. -/
theorem Occurs.trans {inner part whole : Value} (first : Occurs inner part) (second : Occurs part whole) :
    Occurs inner whole := by
  -- Induction on the way from the part up to the whole.
  induction second with
  | self => exact first
  | item given member _ ih => exact .item given member ih
  | entry member _ ih => exact .entry member ih

/-- What is met within a writable value is writable. -/
theorem Writable.of_occurs {part source : Value} (writable : source.Writable)
    (within : Occurs part source) : part.Writable :=
  fun inner deeper => writable inner (deeper.trans within)

/-- The items of a writable value are writable. -/
theorem Writable.item {source item : Value} {items : List Value} (writable : source.Writable)
    (given : source.items? = some items) (member : item ∈ items) : item.Writable :=
  writable.of_occurs (.item given member .self)

/-- A writable value is short itself. -/
theorem Writable.isShort {source : Value} (writable : source.Writable) : source.IsShort :=
  writable source .self

/-- Null holds no number. -/
theorem Writable.null : Value.null.Writable := by
  -- Nothing else is met within null.
  intro inner within
  cases within with
  | self => trivial
  | item given => cases given

/-- A short whole number is writable. -/
theorem Writable.int {number : Int} (short : number.natAbs < Text.decimalBound) :
    (Value.int number).Writable := by
  -- Nothing else is met within a number.
  intro inner within
  cases within with
  | self => exact short
  | item given => cases given

/-- A list of writable items is writable. -/
theorem Writable.list {items : List Value} (each : ∀ item ∈ items, item.Writable) :
    (Value.list items).Writable := by
  -- What is met within a list is the list itself, or it is met within an item.
  intro inner within
  cases within with
  | self => trivial
  | item given member below =>
    cases given
    exact each _ member inner below

/-- An object of writable entries is writable. -/
theorem Writable.object {entries : List (String × Value)} (each : ∀ entry ∈ entries, entry.2.Writable) :
    (Value.object entries).Writable := by
  -- What is met within an object is the object itself, or it is met within an entry.
  intro inner within
  cases within with
  | self => trivial
  | item given => cases given
  | entry member below => exact each _ member inner below

end Value

namespace Literal

/-- A short literal denotes a number with a text. -/
theorem value_lt {literal : Literal} {number : Nat} (short : literal.IsShort)
    (read : literal.value = .ok number) : number < Text.decimalBound := by
  -- Decimal text is the only spelling that is limited by its length.
  cases literal with
  | integer value => cases read; exact short
  | unitFraction numerator => cases read; exact short
  | hex numeral => cases read; exact short
  | nonUnitFraction numerator denominator => cases read
  | decimal numeral =>
    simp only [value] at read
    split at read
    · rename_i limited
      cases read
      have digits := numeral.isDecimal
      simp only [Text.isDecimal, Bool.and_eq_true, List.all_eq_true] at digits
      calc
        Text.decimalValue numeral.text.toList < 10 ^ numeral.text.toList.length :=
          Text.decimalValue_lt digits.2
        _ ≤ 10 ^ Text.maxDigits := Nat.pow_le_pow_right (by decide) limited
        _ = Text.decimalBound := Text.decimalBound_eq.symm
    · cases read

/-- The literal of a whole number is as short as the number. -/
theorem isShort_ofInteger {whole : Int} {literal : Literal} (short : whole.natAbs < Text.decimalBound)
    (read : ofInteger whole = .ok literal) : literal.IsShort := by
  -- The literal holds the number as it is.
  cases whole with
  | ofNat number => cases read; exact short
  | negSucc number => cases read

/-- The literal of a short value is short. -/
theorem isShort_ofScalar {source : Value} {literal : Literal} (short : source.IsShort)
    (read : ofScalar source = .ok literal) : literal.IsShort := by
  cases source with
  | literal known => cases read; exact short
  | int number => exact isShort_ofInteger short read
  | float number =>
    simp only [ofScalar] at read
    split at read
    · -- A double is short whatever it is.
      rename_i whole equal
      exact isShort_ofInteger (Binary64.natAbs_lt_decimalBound equal) read
    · cases read
  | text content =>
    simp only [ofScalar, ofText] at read
    split at read
    · cases read
    · split at read
      · -- The digits that the literal keeps are those of the stripped text.
        rename_i hex
        cases read
        simpa only [IsShort, HexText.digits, String.toList_ofList] using short hex
      · split at read
        · cases read; trivial
        · split at read <;> cases read
  | _ => cases read

/-- The parts of a fraction have texts. -/
theorem fractionPart_lt {part : Value} {number : Nat} (short : part.IsShort)
    (read : fractionPart part = .ok number) : number < Text.decimalBound := by
  -- A part is read as a literal of its own, whose value is as short.
  unfold fractionPart at read
  split at read
  · cases read
  · obtain ⟨literal, spelled, denoted⟩ := bind_eq_ok_iff.mp read
    exact value_lt (isShort_ofScalar short spelled) denoted

/-- The literal of a writable value is short. -/
theorem isShort_ofValue {source : Value} {literal : Literal} (writable : source.Writable)
    (read : ofValue source = .ok literal) : literal.IsShort := by
  unfold ofValue at read
  split at read
  case h_1 numerator denominator _ items =>
    obtain ⟨above, aboveRead, later⟩ := bind_eq_ok_iff.mp read
    obtain ⟨below, belowRead, done⟩ := bind_eq_ok_iff.mp later
    have aboveShort := fractionPart_lt (writable.item items (by simp)).isShort aboveRead
    have belowShort := fractionPart_lt (writable.item items (by simp)).isShort belowRead
    cases done
    -- A denominator of one is dropped.
    split
    · exact aboveShort
    · exact ⟨aboveShort, belowShort⟩
  case h_2 => exact isShort_ofScalar writable.isShort read

end Literal

/-- The number that a writable value denotes has a text. -/
theorem Value.Writable.natural_lt {source : Value} {number : Nat} (writable : source.Writable)
    (read : source.natural = .ok number) : number < Text.decimalBound := by
  obtain ⟨literal, spelled, denoted⟩ := bind_eq_ok_iff.mp read
  exact Literal.value_lt (Literal.isShort_ofValue writable spelled) denoted

/-- A failure is raised for a cause that names no place, and its message can be written where `short` holds. -/
def Failure.Unlocated (short : Prop) (failure : Failure) : Prop :=
  ∃ cause : Cause, failure = cause.raise ∧ cause.context.lookup "label" = none ∧
    (short → cause.message?.isSome = true)

/-- What is written under a weaker condition is written under a stronger one. -/
theorem Failure.Unlocated.mono {weak strong : Prop} {failure : Failure}
    (unlocated : failure.Unlocated weak) (implied : strong → weak) : failure.Unlocated strong := by
  obtain ⟨cause, raised, unlabelled, worded⟩ := unlocated
  exact ⟨cause, raised, unlabelled, fun holds => worded (implied holds)⟩

namespace Literal

/-- A whole number is refused for its sign. -/
theorem unlocated_ofInteger {whole : Int} {failure : Failure} (failed : ofInteger whole = .error failure) :
    failure.Unlocated (whole.natAbs < Text.decimalBound) := by
  -- The message shows the number, and a short one has a text.
  cases whole with
  | ofNat number => cases failed
  | negSucc number =>
    refine ⟨.negativeNumber (Int.negSucc number), (Except.error.inj failed).symm, rfl, ?_⟩
    intro short
    obtain ⟨text, written⟩ := Text.exists_decimal? short
    simp only [Cause.message?, written]
    rfl

/-- Text is refused in words that repeat no number. -/
theorem unlocated_ofText {source : String} {failure : Failure} (failed : ofText source = .error failure) :
    failure.Unlocated True := by
  -- Text is empty, negative or malformed, and the message shows the text itself.
  simp only [ofText] at failed
  split at failed
  · cases failed
    exact ⟨.emptyNumeral source, rfl, rfl, fun _ => rfl⟩
  · split at failed
    · cases failed
    · split at failed
      · cases failed
      · split at failed
        · cases failed
          exact ⟨.negativeText _ source, rfl, rfl, fun _ => rfl⟩
        · cases failed
          exact ⟨.malformedNumeral source, rfl, rfl, fun _ => rfl⟩

/-- A value that is no literal is refused in words that are written when it is short. -/
theorem unlocated_ofScalar {source : Value} {failure : Failure} (failed : ofScalar source = .error failure) :
    failure.Unlocated source.IsShort := by
  -- Only whole numbers and doubles that equal one are shown as numbers.
  cases source with
  | literal known => cases failed
  | int number => exact unlocated_ofInteger failed
  | float number =>
    simp only [ofScalar] at failed
    split at failed
    · rename_i whole equal
      exact (unlocated_ofInteger failed).mono fun _ => Binary64.natAbs_lt_decimalBound equal
    · cases failed
      exact ⟨.fractional number, rfl, rfl, fun _ => rfl⟩
  | text content => exact (unlocated_ofText failed).mono fun _ => trivial
  | _ =>
    cases failed
    exact ⟨.unsupportedElement _, rfl, rfl, fun _ => rfl⟩

/-- A literal that denotes no number is refused in words that are written when it is short. -/
theorem unlocated_value {literal : Literal} {failure : Failure} (failed : literal.value = .error failure) :
    failure.Unlocated literal.IsShort := by
  cases literal with
  | decimal numeral =>
    simp only [value] at failed
    split at failed
    · cases failed
    · -- The message about too many digits repeats none of them.
      cases failed
      exact ⟨.longDecimal _, rfl, rfl, fun _ => rfl⟩
  | nonUnitFraction numerator denominator =>
    refine ⟨.nonUnitDenominator numerator denominator, (Except.error.inj failed).symm, rfl, ?_⟩
    intro short
    simp only [Cause.message?, Text.decimal?_natCast short.1, Text.decimal?_natCast short.2]
    rfl
  | _ => cases failed

/-- A part of a fraction is refused in words that are written when it is short. -/
theorem unlocated_fractionPart {part : Value} {failure : Failure}
    (failed : fractionPart part = .error failure) : failure.Unlocated part.IsShort := by
  -- The part is a sequence, no literal, or a literal without a number.
  unfold fractionPart at failed
  split at failed
  · cases failed
    exact ⟨.unsupportedFractionPart _, rfl, rfl, fun _ => rfl⟩
  · rcases bind_eq_error_iff.mp failed with refused | ⟨literal, spelled, refused⟩
    · exact unlocated_ofScalar refused
    · exact (unlocated_value refused).mono fun short => isShort_ofScalar short spelled

/-- A value that is no literal is refused in words that are written when it is writable. -/
theorem unlocated_ofValue {source : Value} {failure : Failure} (failed : ofValue source = .error failure) :
    failure.Unlocated source.Writable := by
  -- A fraction is refused for its first part or for its second one, anything else for itself.
  unfold ofValue at failed
  split at failed
  case h_1 numerator denominator _ items =>
    rcases bind_eq_error_iff.mp failed with refused | ⟨above, _, later⟩
    · exact (unlocated_fractionPart refused).mono fun writable => (writable.item items (by simp)).isShort
    · rcases bind_eq_error_iff.mp later with refused | ⟨below, _, done⟩
      · exact (unlocated_fractionPart refused).mono fun writable => (writable.item items (by simp)).isShort
      · cases done
  case h_2 => exact (unlocated_ofScalar failed).mono fun writable => writable.isShort

end Literal

/-- A value that denotes no number is refused in words that are written when it is writable. -/
theorem Value.unlocated_natural {source : Value} {failure : Failure}
    (failed : source.natural = .error failure) : failure.Unlocated source.Writable := by
  -- The value is no literal, or the literal has no number.
  rcases bind_eq_error_iff.mp failed with refused | ⟨literal, spelled, refused⟩
  · exact Literal.unlocated_ofValue refused
  · exact (Literal.unlocated_value refused).mono fun writable => Literal.isShort_ofValue writable spelled

end ProofWire
