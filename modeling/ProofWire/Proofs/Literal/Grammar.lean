import ProofWire.Literal.Classify
import ProofWire.Proofs.Text.Hex

/-! The grammar of literal texts: which texts are numerals, which are negated ones, and which numbers they denote. -/

namespace ProofWire

namespace Text

/-- The digits in base ten. -/
def decimalAlphabet : List Char :=
  ['0', '1', '2', '3', '4', '5', '6', '7', '8', '9']

/-- The digits in base sixteen, letters of both cases among them. -/
def hexAlphabet : List Char :=
  decimalAlphabet ++ ['a', 'b', 'c', 'd', 'e', 'f', 'A', 'B', 'C', 'D', 'E', 'F']

/-- The value of a digit of either case: its place among the lower-case ones. -/
def digitValue (c : Char) : Nat :=
  hexAlphabet.idxOf c.toLower

/-- One or more characters of an alphabet. -/
def IsRow (alphabet digits : List Char) : Prop :=
  digits ≠ [] ∧ ∀ c ∈ digits, c ∈ alphabet

/-- The number that digits denote by their positions, the last of which weighs one. -/
def positional (base : Nat) (digits : List Char) : Nat :=
  Nat.ofDigits base (digits.reverse.map digitValue)

/-- A text is the numeral of a number: decimal digits, not too many of them, or hexadecimal ones behind a mark. -/
inductive Numeral : List Char → Nat → Prop where
  | decimal {digits : List Char} (row : IsRow decimalAlphabet digits) (short : digits.length ≤ 4300) :
    Numeral digits (positional 10 digits)
  | hex {mark : Char} {digits : List Char} (marked : mark = 'x' ∨ mark = 'X') (row : IsRow hexAlphabet digits) :
    Numeral ('0' :: mark :: digits) (positional 16 digits)

/-- A text is a minus sign directly before digits of one of the two bases; here decimal ones are never too many. -/
inductive Negated : List Char → Prop where
  | decimal {digits : List Char} (row : IsRow decimalAlphabet digits) : Negated ('-' :: digits)
  | hex {mark : Char} {digits : List Char} (marked : mark = 'x' ∨ mark = 'X') (row : IsRow hexAlphabet digits) :
    Negated ('-' :: '0' :: mark :: digits)

/-- The decimal digits are the characters of their alphabet. -/
theorem isDigit_iff_mem (c : Char) : c.isDigit = true ↔ c ∈ decimalAlphabet := by
  constructor
  · intro digit
    -- The codes of the digits follow each other.
    have listed : ∀ code ∈ List.range' 48 10, Char.ofNat code ∈ decimalAlphabet := by decide
    simp only [Char.isDigit, ge_iff_le, Bool.and_eq_true, decide_eq_true_eq, UInt32.le_iff_toNat_le] at digit
    have low : 48 ≤ c.toNat := digit.1
    have high : c.toNat ≤ 57 := digit.2
    have found := listed c.toNat (List.mem_range'_1.mpr ⟨low, by omega⟩)
    rwa [Char.ofNat_toNat] at found
  · intro member
    have digits : decimalAlphabet.all Char.isDigit = true := by decide
    exact List.all_eq_true.mp digits c member

/-- The hexadecimal digits are the characters of their alphabet. -/
theorem isHexDigit_iff_mem (c : Char) : isHexDigit c = true ↔ c ∈ hexAlphabet := by
  constructor
  · intro digit
    -- Three runs of codes make up the alphabet.
    have listed : ∀ code ∈ List.range' 48 10 ++ List.range' 97 6 ++ List.range' 65 6,
        Char.ofNat code ∈ hexAlphabet := by decide
    have code := toNat_of_isHexDigit digit
    have found := listed c.toNat (by
      simp only [List.mem_append, List.mem_range'_1]
      omega)
    rwa [Char.ofNat_toNat] at found
  · intro member
    have digits : hexAlphabet.all isHexDigit = true := by decide
    exact List.all_eq_true.mp digits c member

/-- Positional values are computed from the first digit on. -/
theorem positional_eq_foldl (base : Nat) (digits : List Char) :
    positional base digits = digits.foldl (fun value c => base * value + digitValue c) 0 := by
  -- A fold from the right over the reversed digits is one from the left over the digits.
  rw [positional, Nat.ofDigits_eq_foldr, List.map_reverse, List.foldr_reverse, List.foldl_map]
  refine List.foldl_ext _ _ _ fun value c _ => ?_
  exact Nat.add_comm _ _

/-- Decimal digits denote their positional value. -/
theorem decimalValue_eq {digits : List Char} (ten : ∀ c ∈ digits, c ∈ decimalAlphabet) :
    decimalValue digits = positional 10 digits := by
  -- The place of a digit is the distance of its code from that of zero.
  have values : (decimalAlphabet.all fun c => c.toNat - '0'.toNat == digitValue c) = true := by decide
  rw [positional_eq_foldl, decimalValue, Nat.ofDigitChars]
  refine List.foldl_ext _ _ _ fun value c member => congrArg (10 * value + ·) ?_
  exact beq_iff_eq.mp (List.all_eq_true.mp values c (ten c member))

/-- Hexadecimal digits denote their positional value. -/
theorem hexValue_eq {digits : List Char} (sixteen : ∀ c ∈ digits, c ∈ hexAlphabet) :
    hexValue digits = positional 16 digits := by
  -- The two tables of digit values agree on the alphabet.
  have values : (hexAlphabet.all fun c => (hexValue? c).getD 0 == digitValue c) = true := by decide
  rw [positional_eq_foldl, hexValue]
  refine List.foldl_ext _ _ _ fun value c member => congrArg (16 * value + ·) ?_
  exact beq_iff_eq.mp (List.all_eq_true.mp values c (sixteen c member))

/-- A decimal numeral is a row of decimal digits. -/
theorem isDecimal_iff {text : List Char} : isDecimal text = true ↔ IsRow decimalAlphabet text := by
  simp only [isDecimal, IsRow, Bool.and_eq_true, Bool.not_eq_true', List.isEmpty_eq_false_iff, List.all_eq_true,
    isDigit_iff_mem]

/-- A hexadecimal numeral is a row of hexadecimal digits behind a mark. -/
theorem isHex_iff {text : List Char} :
    isHex text = true ↔
      ∃ mark digits, text = '0' :: mark :: digits ∧ (mark = 'x' ∨ mark = 'X') ∧ IsRow hexAlphabet digits := by
  -- The test looks for the mark first and then at the digits.
  unfold isHex
  split
  · simp only [Bool.and_eq_true, Bool.or_eq_true, beq_iff_eq, Bool.not_eq_true', List.isEmpty_eq_false_iff,
      List.all_eq_true, isHexDigit_iff_mem, IsRow, and_assoc]
    constructor
    · intro ⟨marked, filled, sixteen⟩
      exact ⟨_, _, rfl, marked, filled, sixteen⟩
    · intro ⟨_, _, same, marked, filled, sixteen⟩
      cases same
      exact ⟨marked, filled, sixteen⟩
  · rename_i other
    refine ⟨fun never => absurd never (by decide), fun ⟨mark, digits, same, _⟩ => ?_⟩
    exact absurd same (other mark digits)

/-- The test for a sign reads negated numerals of either base. -/
theorem negated_iff {text : List Char} :
    Negated text ↔ (Literal.isNegated isDecimal text || Literal.isNegated isHex text) = true := by
  -- Behind the sign there is a numeral of one of the two bases.
  rw [Bool.or_eq_true]
  constructor
  · intro negated
    cases negated with
    | decimal row => exact Or.inl (isDecimal_iff.mpr row)
    | hex marked row => exact Or.inr (isHex_iff.mpr ⟨_, _, rfl, marked, row⟩)
  · intro tests
    unfold Literal.isNegated at tests
    split at tests
    · rename_i numeral
      rcases tests with decimal | hex
      · exact .decimal (isDecimal_iff.mp decimal)
      · obtain ⟨mark, digits, rfl, marked, row⟩ := isHex_iff.mp hex
        exact .hex marked row
    · simp at tests

/-- The tests for numerals read what their digits denote. -/
theorem numeral_iff {text : List Char} {number : Nat} :
    Numeral text number ↔ (isHex text = true ∧ hexValue (text.drop 2) = number) ∨
      (isDecimal text = true ∧ text.length ≤ maxDigits ∧ decimalValue text = number) := by
  -- The tests recognise the two rows of digits, and each value is the positional one.
  constructor
  · intro numeral
    cases numeral with
    | decimal row short => exact Or.inr ⟨isDecimal_iff.mpr row, short, decimalValue_eq row.2⟩
    | hex marked row => exact Or.inl ⟨isHex_iff.mpr ⟨_, _, rfl, marked, row⟩, hexValue_eq row.2⟩
  · rintro (⟨hex, value⟩ | ⟨decimal, short, value⟩)
    · obtain ⟨mark, digits, rfl, marked, row⟩ := isHex_iff.mp hex
      have denoted : positional 16 digits = number := (hexValue_eq row.2).symm.trans value
      exact denoted ▸ .hex marked row
    · have row := isDecimal_iff.mp decimal
      have denoted : positional 10 text = number := (decimalValue_eq row.2).symm.trans value
      exact denoted ▸ .decimal row short

/-- A text is the numeral of one number only. -/
theorem Numeral.unique {text : List Char} {number other : Nat} (first : Numeral text number)
    (second : Numeral text other) : number = other := by
  -- The two bases do not share a text.
  rcases numeral_iff.mp first with ⟨hex, value⟩ | ⟨decimal, _, value⟩
  · rcases numeral_iff.mp second with ⟨_, same⟩ | ⟨decimal, _⟩
    · exact value.symm.trans same
    · cases (isHex_of_isDecimal decimal).symm.trans hex
  · rcases numeral_iff.mp second with ⟨hex, _⟩ | ⟨_, _, same⟩
    · cases (isHex_of_isDecimal decimal).symm.trans hex
    · exact value.symm.trans same

/-- Digits have no sign. -/
theorem IsRow.not_negated {text : List Char} (row : IsRow decimalAlphabet text) : ¬ Negated text := by
  -- The sign is in no alphabet.
  have unsigned : '-' ∉ decimalAlphabet := by decide
  intro negated
  cases negated with
  | decimal | hex => exact unsigned (row.2 _ List.mem_cons_self)

/-- A numeral has no sign. -/
theorem Numeral.not_negated {text : List Char} {number : Nat} (numeral : Numeral text number) : ¬ Negated text := by
  -- A decimal numeral begins with a digit, and a hexadecimal one with a zero.
  cases numeral with
  | decimal row => exact row.not_negated
  | hex =>
    intro negated
    cases negated

end Text

namespace Literal

/-- What becomes of a text: the number of its numeral, or a refusal of its sign, or one of its form. -/
inductive Reads (text : List Char) : Except Failure Nat → Prop where
  | numeral {number : Nat} (numeral : Text.Numeral text number) : Reads text (.ok number)
  | negative {fault : Fault} (negated : Text.Negated text) (kind : fault.kind = .negativeLiteral) :
    Reads text (.error (.classified fault))
  | malformed {fault : Fault} (formless : ∀ number, ¬ Text.Numeral text number) (unsigned : ¬ Text.Negated text)
    (kind : fault.kind = .malformedLiteral) : Reads text (.error (.classified fault))

/-- Every text is read in one of these ways, blanks around it aside. -/
theorem reads_natural (source : String) : Reads (Text.strip source.toList) (Value.text source).natural := by
  show Reads _ (ofText source >>= Literal.value)
  -- The tests are made in the order of the reader, and a refusal knows that those before it have failed.
  simp only [ofText]
  split
  · rename_i empty
    rw [List.isEmpty_iff.mp empty]
    refine .malformed (fun number numeral => ?_) (fun negated => ?_) rfl
    · rcases Text.numeral_iff.mp numeral with ⟨hex, _⟩ | ⟨decimal, _⟩
      · cases hex
      · cases decimal
    · cases negated
  · split
    · rename_i hex
      show Reads _ (.ok (Text.hexValue ((String.ofList _).toList.drop 2)))
      rw [String.toList_ofList]
      exact .numeral (Text.numeral_iff.mpr (.inl ⟨hex, rfl⟩))
    · rename_i notHex
      split
      · rename_i decimal
        simp only [Bind.bind, Except.bind, Literal.value, String.toList_ofList]
        split
        · rename_i short
          exact .numeral (Text.numeral_iff.mpr (.inr ⟨decimal, short, rfl⟩))
        · -- Only the number of its digits keeps this from being a numeral.
          rename_i long
          refine .malformed (fun number numeral => ?_) (Text.isDecimal_iff.mp decimal).not_negated rfl
          rcases Text.numeral_iff.mp numeral with ⟨hex, _⟩ | ⟨_, short, _⟩
          · exact notHex hex
          · exact long short
      · rename_i notDecimal
        have formless : ∀ number, ¬ Text.Numeral (Text.strip source.toList) number := by
          intro number numeral
          rcases Text.numeral_iff.mp numeral with ⟨hex, _⟩ | ⟨decimal, _⟩
          · exact notHex hex
          · exact notDecimal decimal
        split
        · rename_i signed
          exact .negative (Text.negated_iff.mpr signed) rfl
        · rename_i unsigned
          exact .malformed formless (fun negated => unsigned (Text.negated_iff.mp negated)) rfl

end Literal

/--
Texts are accepted by exactly the grammar of numerals, and denote exactly their numbers.

Every text has one form without the blanks at its ends. The text denotes a number if this form is the numeral of it, it
is refused as negative if the form is a negated numeral, and it is refused as malformed in all other cases. No other
failure occurs.
-/
theorem text_literals_denote (source : String) :
    ∃ text, (∀ other, Text.Trims source.toList other ↔ other = text) ∧
      (∀ number, (Value.text source).natural = .ok number ↔ Text.Numeral text number) ∧
      ((∃ fault, (Value.text source).natural = .error (.classified fault) ∧ fault.kind = .negativeLiteral) ↔
        Text.Negated text) ∧
      ((∃ fault, (Value.text source).natural = .error (.classified fault) ∧ fault.kind = .malformedLiteral) ↔
        (∀ number, ¬ Text.Numeral text number) ∧ ¬ Text.Negated text) ∧
      ∀ failure, (Value.text source).natural = .error failure →
        ∃ fault, failure = .classified fault ∧ (fault.kind = .negativeLiteral ∨ fault.kind = .malformedLiteral) := by
  refine ⟨Text.strip source.toList, fun _ => Text.trims_iff, ?_⟩
  have reads := Literal.reads_natural source
  generalize (Value.text source).natural = result at reads ⊢
  -- The three ways of reading exclude each other, so that each decides all of the equivalences.
  cases reads with
  | numeral numeral =>
    refine ⟨fun number => ⟨fun same => ?_, fun other => ?_⟩, ⟨?_, fun negated => ?_⟩, ⟨?_, fun neither => ?_⟩, ?_⟩
    · cases same
      exact numeral
    · rw [numeral.unique other]
    · rintro ⟨_, failed, _⟩
      cases failed
    · exact absurd negated numeral.not_negated
    · rintro ⟨_, failed, _⟩
      cases failed
    · exact absurd numeral (neither.1 _)
    · intro _ failed
      cases failed
  | @negative fault negated kind =>
    refine ⟨fun number => ⟨fun same => ?_, fun numeral => ?_⟩, ⟨fun _ => negated, fun _ => ⟨fault, rfl, kind⟩⟩,
      ⟨?_, fun neither => ?_⟩, ?_⟩
    · cases same
    · exact absurd negated numeral.not_negated
    · rintro ⟨_, failed, other⟩
      cases failed
      cases kind.symm.trans other
    · exact absurd negated neither.2
    · intro _ failed
      cases failed
      exact ⟨fault, rfl, .inl kind⟩
  | @malformed fault formless unsigned kind =>
    refine ⟨fun number => ⟨fun same => ?_, fun numeral => ?_⟩, ⟨?_, fun negated => ?_⟩,
      ⟨fun _ => ⟨formless, unsigned⟩, fun _ => ⟨fault, rfl, kind⟩⟩, ?_⟩
    · cases same
    · exact absurd numeral (formless number)
    · rintro ⟨_, failed, other⟩
      cases failed
      cases kind.symm.trans other
    · exact absurd negated unsigned
    · intro _ failed
      cases failed
      exact ⟨fault, rfl, .inr kind⟩

end ProofWire
