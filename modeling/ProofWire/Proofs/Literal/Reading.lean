import ProofWire.Proofs.Binary64.Exact
import ProofWire.Proofs.Literal.Grammar
import ProofWire.Proofs.Literal.Writable

/-! Reading values as literals: which values denote a number, and what becomes of fractions and of unfit values. -/

namespace ProofWire

namespace Literal

/-- The number that a literal denotes; decimal text must not be too long, and a proper fraction denotes none. -/
inductive Denotes : Literal → Nat → Prop where
  | integer (number : Nat) : Denotes (.integer number) number
  | decimal {numeral : DecimalText} {number : Nat} (spelled : Text.Numeral numeral.text.toList number) :
    Denotes (.decimal numeral) number
  | hex {numeral : HexText} {number : Nat} (spelled : Text.Numeral numeral.text.toList number) :
    Denotes (.hex numeral) number
  | unitFraction (numerator : Nat) : Denotes (.unitFraction numerator) numerator

/-- A literal gives exactly the number that it denotes. -/
theorem value_eq_ok_iff {literal : Literal} {number : Nat} : literal.value = .ok number ↔ literal.Denotes number := by
  -- Spelled literals carry the proof of their form, so that only the length of decimal ones is looked at.
  cases literal with
  | integer value =>
    constructor
    · intro read
      cases read
      exact .integer _
    · intro denoted
      cases denoted
      rfl
  | unitFraction numerator =>
    constructor
    · intro read
      cases read
      exact .unitFraction _
    · intro denoted
      cases denoted
      rfl
  | decimal numeral =>
    have digits := Text.isHex_of_isDecimal numeral.isDecimal
    simp only [value]
    constructor
    · intro read
      split at read
      · rename_i short
        cases read
        exact .decimal (Text.numeral_iff.mpr (.inr ⟨numeral.isDecimal, short, rfl⟩))
      · cases read
    · intro denoted
      cases denoted with
      | decimal spelled =>
        rcases Text.numeral_iff.mp spelled with ⟨hex, _⟩ | ⟨_, short, same⟩
        · cases digits.symm.trans hex
        · rw [if_pos short, same]
  | hex numeral =>
    constructor
    · intro read
      cases read
      exact .hex (Text.numeral_iff.mpr (.inl ⟨numeral.isHex, rfl⟩))
    · intro denoted
      cases denoted with
      | hex spelled =>
        rcases Text.numeral_iff.mp spelled with ⟨_, same⟩ | ⟨decimal, _⟩
        · exact congrArg Except.ok same
        · cases (Text.isHex_of_isDecimal decimal).symm.trans numeral.isHex
  | nonUnitFraction numerator denominator =>
    constructor
    · intro read
      cases read
    · intro denoted
      cases denoted

end Literal

/--
The number that a value denotes.

A whole number from zero on denotes itself, and a finite double does where it is one; texts and literals denote what they
spell. Three items are a fraction: its first two are no sequences, the second denotes one, and the third may be anything.
-/
inductive Value.Denotes : Value → Nat → Prop where
  | integer (number : Nat) : Denotes (.int number) number
  | double {x : Binary64} {number : Nat} (finite : x.isFinite = true) (exact : x.toRat = number) :
    Denotes (.float x) number
  | text {source : String} {text : List Char} {number : Nat} (trims : Text.Trims source.toList text)
    (numeral : Text.Numeral text number) : Denotes (.text source) number
  | literal {spelled : Literal} {number : Nat} (denoted : spelled.Denotes number) : Denotes (.literal spelled) number
  | fraction {source numerator denominator radix : Value} {number : Nat}
    (items : source.items? = some [numerator, denominator, radix]) (flat : numerator.items? = none)
    (above : Denotes numerator number) (flatBelow : denominator.items? = none) (below : Denotes denominator 1) :
    Denotes source number

namespace Literal

/-- A value other than a row of three items is read by itself. -/
theorem natural_of_single {source : Value}
    (single : ∀ numerator denominator radix, source.items? ≠ some [numerator, denominator, radix]) :
    source.natural = ofScalar source >>= value := by
  -- Only three items are read as a fraction.
  unfold Value.natural ofValue
  split
  · rename_i items
    exact absurd items (single _ _ _)
  · rfl

/-- A part of a fraction is read as any value is, unless it is a sequence. -/
theorem fractionPart_of_flat {part : Value} (flat : part.items? = none) : fractionPart part = part.natural := by
  rw [natural_of_single fun _ _ _ items => by cases flat.symm.trans items]
  simp only [fractionPart, flat]

/-- The value of a fraction: that of its numerator over a denominator of one. -/
def quotient (numerator denominator : Nat) : Except Failure Nat :=
  if denominator = 1 then .ok numerator else .error (Cause.nonUnitDenominator numerator denominator).raise

/-- Three items are read as a fraction, whatever the last of them is. -/
theorem natural_of_fraction {source numerator denominator radix : Value}
    (items : source.items? = some [numerator, denominator, radix]) :
    source.natural = (do
      let above ← fractionPart numerator
      let below ← fractionPart denominator
      quotient above below) := by
  unfold Value.natural ofValue
  simp only [items]
  cases fractionPart numerator with
  | error failure => rfl
  | ok above =>
    cases fractionPart denominator with
    | error failure => rfl
    | ok below =>
      -- The literal of the fraction is told apart by its denominator, as its value is.
      simp only [Bind.bind, Except.bind, pure, Except.pure, quotient]
      split <;> rfl

/-- A whole number is read exactly when it is not negative. -/
theorem ofInteger_value_eq_ok_iff {whole : Int} {number : Nat} :
    (ofInteger whole >>= value) = .ok number ↔ whole = number := by
  -- A negative number has no literal.
  cases whole with
  | ofNat natural =>
    constructor
    · intro read
      cases read
      rfl
    · intro same
      rw [← Int.ofNat.inj same]
      rfl
  | negSucc natural =>
    constructor
    · intro read
      cases read
    · intro same
      cases same

/-- A double is read exactly when it is finite and stands for the number. -/
theorem double_natural_eq_ok_iff {x : Binary64} {number : Nat} :
    (Value.float x).natural = .ok number ↔ x.isFinite = true ∧ x.toRat = number := by
  -- A double is taken for the whole number that it equals, if there is one.
  have whole : x.integer? = some (number : Int) ↔ x.isFinite = true ∧ x.toRat = number := Binary64.integer?_eq_some_iff
  refine Iff.trans ?_ whole
  show (ofScalar (.float x) >>= value) = .ok number ↔ _
  cases found : x.integer? with
  | none =>
    simp only [ofScalar, found]
    constructor
    · intro read
      cases read
    · intro same
      cases same
  | some integer =>
    simp only [ofScalar, found, Option.some.injEq]
    exact ofInteger_value_eq_ok_iff

/-- A text is read exactly when it is a numeral of the number, blanks around it aside. -/
theorem text_natural_eq_ok_iff {source : String} {number : Nat} :
    (Value.text source).natural = .ok number ↔ Text.Numeral (Text.strip source.toList) number := by
  have reads := reads_natural source
  generalize (Value.text source).natural = result at reads ⊢
  constructor
  · intro read
    subst read
    cases reads with
    | numeral numeral => exact numeral
  · intro numeral
    -- A text with a numeral is read as its number, and in no other way.
    cases reads with
    | numeral found => rw [found.unique numeral]
    | negative negated => exact absurd negated numeral.not_negated
    | malformed formless => exact absurd numeral (formless number)

/-- A value that is no sequence is read exactly as the number that it denotes. -/
theorem natural_eq_ok_iff_of_flat {source : Value} {number : Nat} (flat : source.items? = none) :
    source.natural = .ok number ↔ source.Denotes number := by
  -- In each case a fraction is out of the question, since it has items.
  cases source with
  | int whole =>
    refine ofInteger_value_eq_ok_iff.trans ⟨fun same => same ▸ .integer number, fun denoted => ?_⟩
    cases denoted with
    | integer => rfl
    | fraction items => cases items
  | float x =>
    refine double_natural_eq_ok_iff.trans ⟨fun ⟨finite, exact⟩ => .double finite exact, fun denoted => ?_⟩
    cases denoted with
    | double finite exact => exact ⟨finite, exact⟩
    | fraction items => cases items
  | text source =>
    refine text_natural_eq_ok_iff.trans ⟨.text (Text.trims_strip source.toList), fun denoted => ?_⟩
    cases denoted with
    | text trims numeral =>
      rw [← Text.trims_iff.mp trims]
      exact numeral
    | fraction items => cases items
  | literal spelled =>
    refine value_eq_ok_iff.trans ⟨.literal, fun denoted => ?_⟩
    cases denoted with
    | literal spelled => exact spelled
    | fraction items => cases items
  | list | tuple => cases flat
  | null | bool | object | bytes =>
    constructor
    · intro read
      cases read
    · intro denoted
      cases denoted with
      | fraction items => cases items

/-- A part of a fraction is read exactly when it is no sequence and denotes its number. -/
theorem fractionPart_eq_ok_iff {part : Value} {number : Nat} :
    fractionPart part = .ok number ↔ part.items? = none ∧ part.Denotes number := by
  -- A sequence is refused before anything is read of it.
  cases flat : part.items? with
  | none => simp only [fractionPart_of_flat flat, natural_eq_ok_iff_of_flat flat, true_and]
  | some items => simp [fractionPart, flat]

/-- A quotient is a number exactly when the denominator is one. -/
theorem quotient_eq_ok_iff {numerator denominator number : Nat} :
    quotient numerator denominator = .ok number ↔ denominator = 1 ∧ numerator = number := by
  unfold quotient
  split <;> simp_all

end Literal

/-- A value is read exactly as the number that it denotes. -/
theorem Value.natural_eq_ok_iff {source : Value} {number : Nat} :
    source.natural = .ok number ↔ source.Denotes number := by
  cases given : source.items? with
  | none => exact Literal.natural_eq_ok_iff_of_flat given
  | some items =>
    constructor
    · intro read
      by_cases fraction : ∃ numerator denominator radix, source.items? = some [numerator, denominator, radix]
      · obtain ⟨numerator, denominator, radix, three⟩ := fraction
        rw [Literal.natural_of_fraction three] at read
        obtain ⟨above, aboveRead, later⟩ := bind_eq_ok_iff.mp read
        obtain ⟨below, belowRead, done⟩ := bind_eq_ok_iff.mp later
        obtain ⟨flat, aboveDenoted⟩ := Literal.fractionPart_eq_ok_iff.mp aboveRead
        obtain ⟨flatBelow, belowDenoted⟩ := Literal.fractionPart_eq_ok_iff.mp belowRead
        obtain ⟨unit, same⟩ := Literal.quotient_eq_ok_iff.mp done
        subst unit same
        exact .fraction three flat aboveDenoted flatBelow belowDenoted
      · -- A sequence of another length is no literal.
        rw [Literal.natural_of_single fun numerator denominator radix three =>
          fraction ⟨numerator, denominator, radix, three⟩] at read
        cases source with
        | list | tuple => cases read
        | _ => cases given
    · intro denoted
      cases denoted with
      | fraction three flat above flatBelow below =>
        have aboveRead := Literal.fractionPart_eq_ok_iff.mpr ⟨flat, above⟩
        have belowRead := Literal.fractionPart_eq_ok_iff.mpr ⟨flatBelow, below⟩
        rw [Literal.natural_of_fraction three]
        simp only [aboveRead, belowRead, Bind.bind, Except.bind]
        exact Literal.quotient_eq_ok_iff.mpr ⟨rfl, rfl⟩
      | _ => cases given

namespace Literal

/-- What comes of a part of a fraction: a sequence is refused by its shape, and all else is read as any value is. -/
inductive Part (part : Value) : Except Failure Nat → Prop where
  | nested {items : List Value} (sequence : part.items? = some items) :
    Part part (.error (.classified
      ⟨.unsupportedLiteralType, "unsupported fraction component: " ++ part.shape, [("shape", .text part.shape)]⟩))
  | flat (single : part.items? = none) : Part part part.natural

/--
What comes of a fraction, by what comes of its parts: the first failure, the numerator over one, or a refusal that tells
both numbers. If one of them is too long to be written, the refusal cannot be worded.
-/
inductive Fraction (numerator denominator : Value) : Except Failure Nat → Prop where
  | numerator {failure : Failure} (failed : Part numerator (.error failure)) :
    Fraction numerator denominator (.error failure)
  | denominator {above : Nat} {failure : Failure} (read : Part numerator (.ok above))
    (failed : Part denominator (.error failure)) : Fraction numerator denominator (.error failure)
  | unit {above : Nat} (read : Part numerator (.ok above)) (unit : Part denominator (.ok 1)) :
    Fraction numerator denominator (.ok above)
  | nonUnit {above below : Nat} (read : Part numerator (.ok above)) (readBelow : Part denominator (.ok below))
    (apart : below ≠ 1) (short : above < Text.decimalBound) (shortBelow : below < Text.decimalBound) :
    Fraction numerator denominator (.error (.classified
      ⟨.nonUnitDenominator, "cannot encode fraction field element " ++ toString above ++ "/" ++ toString below,
        [("value", .int above), ("denominator", .int below)]⟩))
  | unwritable {above below : Nat} (read : Part numerator (.ok above)) (readBelow : Part denominator (.ok below))
    (apart : below ≠ 1) (long : Text.decimalBound ≤ above ∨ Text.decimalBound ≤ below) :
    Fraction numerator denominator (.error (.digits none))

/-- The part of a fraction is read in one of these ways. -/
theorem part_fractionPart (part : Value) : Part part (fractionPart part) := by
  -- Whether the part is a sequence decides between the two ways.
  cases given : part.items? with
  | none =>
    rw [fractionPart_of_flat given]
    exact .flat given
  | some items =>
    simp only [fractionPart, given]
    exact .nested given

/-- Numbers that are not over one are refused, in words if both have texts. -/
theorem raise_nonUnitDenominator (above below : Nat) :
    (Cause.nonUnitDenominator above below).raise =
      if above < Text.decimalBound ∧ below < Text.decimalBound then
        .classified ⟨.nonUnitDenominator,
          "cannot encode fraction field element " ++ toString above ++ "/" ++ toString below,
          [("value", .int above), ("denominator", .int below)]⟩
      else .digits none := by
  split
  · rename_i short
    refine Cause.raise_eq_classified _ ?_
    simp only [Cause.message?, Text.decimal?_natCast short.1, Text.decimal?_natCast short.2]
    rfl
  · rename_i long
    refine Cause.raise_eq_digits ?_
    simp only [Cause.message?]
    -- The numerator is written first, and either number can be in the way.
    by_cases short : above < Text.decimalBound
    · rw [Text.decimal?_natCast short, Text.decimal?_eq_none (by omega)]
      rfl
    · rw [Text.decimal?_eq_none (by omega)]
      rfl

/-- A fraction is read in one of these ways. -/
theorem fraction_natural {source numerator denominator radix : Value}
    (items : source.items? = some [numerator, denominator, radix]) :
    Fraction numerator denominator source.natural := by
  rw [natural_of_fraction items]
  have read := part_fractionPart numerator
  have readBelow := part_fractionPart denominator
  generalize fractionPart numerator = first at read ⊢
  generalize fractionPart denominator = second at readBelow ⊢
  -- The parts are read from left to right, and the first failure ends it.
  cases first with
  | error failure => exact .numerator read
  | ok above =>
    cases second with
    | error failure => exact .denominator read readBelow
    | ok below =>
      simp only [Bind.bind, Except.bind, quotient]
      split
      · rename_i unit
        subst unit
        exact .unit read readBelow
      · rename_i apart
        rw [raise_nonUnitDenominator]
        split
        · rename_i short
          exact .nonUnit read readBelow apart short.1 short.2
        · exact .unwritable read readBelow apart (by omega)

/-- A part of a fraction is refused if it is a sequence, and else it is given to the reader of values. -/
def readPart (read : Value → Option (Except Failure Nat)) (part : Value) : Option (Except Failure Nat) :=
  match part.items? with
  | some _ => some (.error (Cause.unsupportedFractionPart part.shape).raise)
  | none => read part

/-- Reading by recursion: a fraction has its parts read in the same way. Nothing comes of it when the levels run out. -/
def readWithin : Nat → Value → Option (Except Failure Nat)
  | 0, _ => none
  | levels + 1, source =>
    match source.items? with
    | some [numerator, denominator, _] => do
      match ← readPart (readWithin levels) numerator with
      | .error failure => return .error failure
      | .ok above =>
        let below ← readPart (readWithin levels) denominator
        return below >>= quotient above
    | _ => some (ofScalar source >>= value)

/-- One level is enough for a part of a fraction, since it is no fraction itself. -/
theorem readPart_readWithin (levels : Nat) (part : Value) :
    readPart (readWithin (levels + 1)) part = some (fractionPart part) := by
  -- A part that is no sequence is read by itself, which takes no further level.
  cases flat : part.items? with
  | none =>
    simp only [readPart, flat, readWithin]
    rw [fractionPart_of_flat flat, natural_of_single fun _ _ _ items => by cases flat.symm.trans items]
  | some items => simp only [readPart, fractionPart, flat]

/-- The recursion ends one level below the value, whatever the value is. -/
theorem readWithin_eq (levels : Nat) (source : Value) : readWithin (levels + 2) source = some source.natural := by
  -- A fraction uses one level for its parts; anything else uses none.
  rw [readWithin]
  split
  · rename_i numerator denominator radix items
    rw [natural_of_fraction items, readPart_readWithin, readPart_readWithin]
    cases fractionPart numerator <;> rfl
  · rename_i single
    rw [natural_of_single single]

end Literal

/-- A value of a kind that is never a literal: nothing, a truth value, bytes, an object, or a row of another length. -/
inductive Value.Unfit : Value → Prop where
  | null : Unfit .null
  | bool (flag : Bool) : Unfit (.bool flag)
  | bytes (content : Bytes) : Unfit (.bytes content)
  | object (entries : List (String × Value)) : Unfit (.object entries)
  | sequence {source : Value} {items : List Value} (given : source.items? = some items) (length : items.length ≠ 3) :
    Unfit source

/-- A value that is never a literal is refused by its shape. -/
theorem Value.Unfit.natural {source : Value} (unfit : source.Unfit) :
    source.natural = .error (.classified
      ⟨.unsupportedLiteralType, "unsupported field element type: " ++ source.shape, [("shape", .text source.shape)]⟩) := by
  -- Values of these kinds, and sequences of another length, come to the last case of the reader.
  cases unfit with
  | null | bool | bytes | object => rfl
  | sequence given length =>
    rw [Literal.natural_of_single fun numerator denominator radix three => by
      cases given.symm.trans three
      exact length rfl]
    cases source with
    | list | tuple => rfl
    | _ => cases given

/--
How values are read as literals.

Reading goes at most one level below the value. It gives exactly the number that the value denotes. What comes of three
items is settled by the first two, in their order, whatever the third one is and whether they stand in a list or in a
tuple. Values of the other kinds are refused by their shapes.
-/
theorem values_read (source : Value) :
    (∀ levels, Literal.readWithin (levels + 2) source = some source.natural) ∧
      (∀ number, source.natural = .ok number ↔ source.Denotes number) ∧
      (∀ numerator denominator radix, source.items? = some [numerator, denominator, radix] →
        Literal.Fraction numerator denominator source.natural ∧
          ∀ (other otherRadix : Value), other.items? = some [numerator, denominator, otherRadix] →
            other.natural = source.natural) ∧
      (source.Unfit → source.natural = .error (.classified ⟨.unsupportedLiteralType,
        "unsupported field element type: " ++ source.shape, [("shape", .text source.shape)]⟩)) := by
  -- Each part is one lemma; the third item of a fraction is not looked at.
  refine ⟨fun levels => Literal.readWithin_eq levels source, fun number => Value.natural_eq_ok_iff,
    fun numerator denominator radix items => ⟨Literal.fraction_natural items, fun other otherRadix alike => ?_⟩,
    Value.Unfit.natural⟩
  rw [Literal.natural_of_fraction items, Literal.natural_of_fraction alike]

/-- The hexadecimal text of a power of sixteen. -/
def hexPower (exponent : Nat) : String :=
  String.ofList ('0' :: 'x' :: '1' :: List.replicate exponent '0')

/-- The text of a power of sixteen denotes it. -/
theorem denotes_hexPower (exponent : Nat) : (Value.text (hexPower exponent)).Denotes (Nat.pow 16 exponent) := by
  have row : Text.IsRow Text.hexAlphabet ('1' :: List.replicate exponent '0') := by
    refine ⟨List.cons_ne_nil _ _, fun c member => ?_⟩
    rcases List.mem_cons.mp member with rfl | zero
    · decide
    · rw [List.eq_of_mem_replicate zero]
      decide
  have value : Text.positional 16 ('1' :: List.replicate exponent '0') = Nat.pow 16 exponent := by
    -- The zeros weigh nothing, and the one before them has the weight that they make.
    have zero : Text.digitValue '0' = 0 := by decide
    have one : Text.digitValue '1' = 1 := by decide
    rw [Text.positional, List.reverse_cons, List.reverse_replicate, List.map_append, List.map_replicate, zero,
      List.map_singleton, one, Nat.ofDigits_append, Nat.ofDigits_replicate_zero, List.length_replicate]
    simp
  have numeral : Text.Numeral ('0' :: 'x' :: '1' :: List.replicate exponent '0') (Nat.pow 16 exponent) :=
    value ▸ .hex (.inl rfl) row
  have solid : ∀ c ∈ '0' :: 'x' :: '1' :: List.replicate exponent '0', Text.isBlank c = false := by
    intro c member
    rcases List.mem_cons.mp member with rfl | marked
    · decide
    · rcases List.mem_cons.mp marked with rfl | digit
      · decide
      · exact Text.isBlank_of_isHexDigit ((Text.isHexDigit_iff_mem c).mpr (row.2 c digit))
  refine .text (Text.trims_iff.mpr ?_) numeral
  rw [hexPower, String.toList_ofList, Text.strip_of_solid solid]

/-- A fraction of a number without a text over two is refused, but not in words that tell its numbers. -/
theorem fraction_refused_without_words :
    (Value.text (hexPower Text.maxDigits)).natural = .ok (Nat.pow 16 Text.maxDigits) ∧ (Value.int 2).natural = .ok 2 ∧
      (Value.list [.text (hexPower Text.maxDigits), .int 2, .int 10]).natural = .error (.digits none) := by
  have above : (Value.text (hexPower Text.maxDigits)).natural = .ok (Nat.pow 16 Text.maxDigits) :=
    Value.natural_eq_ok_iff.mpr (denotes_hexPower Text.maxDigits)
  have long : Text.decimalBound ≤ Nat.pow 16 Text.maxDigits := by
    rw [Text.decimalBound_eq]
    -- The powers themselves are far too large to be computed.
    generalize Text.maxDigits = digits
    exact Nat.pow_le_pow_left (by decide) digits
  have below : Literal.fractionPart (.int 2) = .ok 2 := rfl
  refine ⟨above, rfl, ?_⟩
  rw [Literal.natural_of_fraction rfl, Literal.fractionPart_of_flat rfl, above, below]
  generalize Nat.pow 16 Text.maxDigits = number at long
  show Literal.quotient number 2 = _
  rw [Literal.quotient, if_neg (by decide), Literal.raise_nonUnitDenominator, if_neg (by omega)]

end ProofWire
