import ProofWire.Proofs.Literal.Reading

/-! Constructing literals: their constructors accept exactly their contents, and plain values that spell a literal are
classified as it, unless it is a fraction over one that was constructed as a proper one. -/

namespace ProofWire

/-- A hexadecimal numeral holds no blank. -/
theorem Text.isBlank_of_isHex {text : List Char} (hex : isHex text = true) : ∀ c ∈ text, isBlank c = false := by
  -- The two characters of the mark are no blanks, and digits are none either.
  obtain ⟨mark, digits, rfl, marked, row⟩ := isHex_iff.mp hex
  intro c member
  rcases List.mem_cons.mp member with rfl | later
  · decide
  · rcases List.mem_cons.mp later with rfl | digit
    · rcases marked with rfl | rfl <;> decide
    · exact isBlank_of_isHexDigit ((isHexDigit_iff_mem c).mpr (row.2 c digit))

/-- A value that was not classified before. -/
def Value.IsPlain (source : Value) : Prop :=
  ∀ known, source ≠ .literal known

namespace Literal

/-- A hexadecimal numeral is read as itself. -/
theorem ofText_of_isHex {text : String} (hex : Text.isHex text.toList = true) :
    ofText text = .ok (.hex ⟨text, hex⟩) := by
  -- No blank is dropped, and a numeral is not empty.
  have stripped : Text.strip text.toList = text.toList := Text.strip_of_solid (Text.isBlank_of_isHex hex)
  have filled : text.toList.isEmpty = false := by
    obtain ⟨mark, digits, same, _⟩ := Text.isHex_iff.mp hex
    rw [same]
    rfl
  simp [ofText, stripped, filled, hex]

/-- The contents of a literal, in the order in which its constructor takes them. -/
def contents : Literal → List Value
  | .integer value => [.int value]
  | .decimal numeral => [.text numeral.text]
  | .hex numeral => [.text numeral.text]
  | .unitFraction numerator => [.int numerator]
  | .nonUnitFraction numerator denominator => [.int numerator, .int denominator]

/-- The plain value that spells a literal: its number or text, or the parts of its fraction and a radix of ten. -/
def plain : Literal → Value
  | .integer value => .int value
  | .decimal numeral => .text numeral.text
  | .hex numeral => .text numeral.text
  | .unitFraction numerator => .list [.int numerator, .int 1, .int 10]
  | .nonUnitFraction numerator denominator => .list [.int numerator, .int denominator, .int 10]

/-- A fraction over one that was constructed as a proper one. -/
def IsOverOne (literal : Literal) : Prop :=
  ∃ numerator, literal = .nonUnitFraction numerator 1

/-- The content of a literal that holds a number is that number. -/
theorem number_eq_ok_iff {role : String} {content : Value} {value : Nat} :
    number role content = .ok value ↔ content = .int value := by
  -- Whole numbers that are not negative are accepted, and no other content.
  constructor
  · intro accepted
    cases content with
    | int whole =>
      cases whole with
      | ofNat natural => cases accepted; rfl
      | negSucc natural => cases accepted
    | _ => cases accepted
  · rintro rfl
    rfl

/-- A numeral is accepted as the content of a literal of its form. -/
theorem numeral_of_accepts (role : String) {accepts : List Char → Bool} {text : String}
    (accepted : accepts text.toList = true) : numeral role accepts (.text text) = .ok ⟨text, accepted⟩ := by
  simp only [numeral, dif_pos accepted]

/-- The content of a literal that holds text is that text. -/
theorem numeral_eq_ok_iff {role : String} {accepts : List Char → Bool} {content : Value}
    {text : { text : String // accepts text.toList = true }} :
    numeral role accepts content = .ok text ↔ content = .text text.val := by
  -- Text in the form that is asked for is accepted, and no other content.
  obtain ⟨text, accepted⟩ := text
  constructor
  · intro given
    cases content with
    | text other =>
      simp only [numeral] at given
      split at given
      · cases given; rfl
      · split at given <;> cases given
    | _ => cases given
  · rintro rfl
    exact numeral_of_accepts role accepted

/-- The constructor of a literal accepts its contents. -/
theorem ofContents_contents (literal : Literal) : ofContents literal.name literal.contents = .ok literal := by
  -- The contents of a literal meet the checks, since the literal carries the proof of that.
  cases literal with
  | integer value => rfl
  | decimal numeral =>
    have accepted := numeral_of_accepts "decimal literal" numeral.isDecimal
    simp only [name, contents, ofContents, accepted, Bind.bind, Except.bind]
    rfl
  | hex numeral =>
    have accepted := numeral_of_accepts "hex literal" numeral.isHex
    simp only [name, contents, ofContents, accepted, Bind.bind, Except.bind]
    rfl
  | unitFraction numerator => rfl
  | nonUnitFraction numerator denominator => rfl

/-- The constructors accept exactly the contents of literals, each under the name of its literal. -/
theorem ofContents_eq_ok_iff {given : String} {values : List Value} {literal : Literal} :
    ofContents given values = .ok literal ↔ given = literal.name ∧ values = literal.contents := by
  constructor
  · -- Every constructor takes its contents one by one and adds nothing to them.
    intro built
    unfold ofContents at built
    split at built
    · obtain ⟨value, accepted, done⟩ := bind_eq_ok_iff.mp built
      cases done
      exact ⟨rfl, by rw [number_eq_ok_iff.mp accepted, contents]⟩
    · obtain ⟨text, accepted, done⟩ := bind_eq_ok_iff.mp built
      cases done
      exact ⟨rfl, by rw [numeral_eq_ok_iff.mp accepted, contents]⟩
    · obtain ⟨text, accepted, done⟩ := bind_eq_ok_iff.mp built
      cases done
      exact ⟨rfl, by rw [numeral_eq_ok_iff.mp accepted, contents]⟩
    · obtain ⟨numerator, accepted, done⟩ := bind_eq_ok_iff.mp built
      cases done
      exact ⟨rfl, by rw [number_eq_ok_iff.mp accepted, contents]⟩
    · obtain ⟨numerator, above, later⟩ := bind_eq_ok_iff.mp built
      obtain ⟨denominator, below, done⟩ := bind_eq_ok_iff.mp later
      cases done
      exact ⟨rfl, by rw [number_eq_ok_iff.mp above, number_eq_ok_iff.mp below, contents]⟩
    · cases built
  · rintro ⟨rfl, rfl⟩
    exact ofContents_contents literal

/-- Two whole numbers from zero on are classified as a fraction, which is a proper one unless the second is one. -/
theorem ofValue_pair (numerator denominator : Nat) :
    ofValue (.list [.int numerator, .int denominator, .int 10]) =
      .ok (if denominator = 1 then .unitFraction numerator else .nonUnitFraction numerator denominator) := by
  rfl

/-- The plain value of a literal is classified as it, unless it is a fraction over one. -/
theorem ofValue_plain {literal : Literal} (proper : ¬ literal.IsOverOne) : ofValue literal.plain = .ok literal := by
  -- A fraction over one is the only one that is classified as another literal.
  cases literal with
  | integer value => rfl
  | decimal numeral => exact ofText_of_isDecimal numeral.isDecimal
  | hex numeral => exact ofText_of_isHex numeral.isHex
  | unitFraction numerator => rfl
  | nonUnitFraction numerator denominator =>
    have apart : denominator ≠ 1 := by
      rintro rfl
      exact proper ⟨numerator, rfl⟩
    rw [plain, ofValue_pair, if_neg apart]

/-- A plain value that is no sequence is classified as no fraction at all. -/
theorem not_isOverOne_of_ofScalar {source : Value} {literal : Literal} (new : source.IsPlain)
    (classified : ofScalar source = .ok literal) : ¬ literal.IsOverOne := by
  rintro ⟨numerator, rfl⟩
  -- Numbers and texts become literals of their own, and everything else is refused.
  cases source with
  | literal known => exact new known rfl
  | int whole => cases whole <;> cases classified
  | float double =>
    simp only [ofScalar] at classified
    split at classified
    · rename_i whole _
      cases whole <;> cases classified
    · cases classified
  | text source =>
    simp only [ofScalar, ofText] at classified
    split at classified
    · cases classified
    · split at classified
      · cases classified
      · split at classified
        · cases classified
        · split at classified <;> cases classified
  | _ => cases classified

/-- No plain value is classified as a proper fraction over one. -/
theorem not_isOverOne_of_ofValue {source : Value} {literal : Literal} (new : source.IsPlain)
    (classified : ofValue source = .ok literal) : ¬ literal.IsOverOne := by
  unfold ofValue at classified
  split at classified
  · obtain ⟨above, _, later⟩ := bind_eq_ok_iff.mp classified
    obtain ⟨below, _, done⟩ := bind_eq_ok_iff.mp later
    rintro ⟨numerator, rfl⟩
    -- The classifier tells fractions over one apart.
    simp only [pure, Except.pure, Except.ok.injEq] at done
    split at done
    · cases done
    · rename_i apart
      cases done
      exact apart rfl
  · exact not_isOverOne_of_ofScalar new classified

end Literal

/--
Literals are constructed exactly as plain values are classified, fractions over one aside.

The constructors accept the contents of a literal under its name, and nothing else, as that literal. Its plain value is
classified as that literal, and both are read alike, with the same number or the same failure, exactly when it is no
fraction over one that was constructed as a proper one; such a literal is refused, while its plain value is read as the
numerator. What any value is classified as, its constructor accepts unchanged, and no plain value is classified as such
a fraction.
-/
theorem constructed_literals_classified (literal : Literal) :
    (∀ name contents, Literal.ofContents name contents = .ok literal ↔
      name = literal.name ∧ contents = literal.contents) ∧
      (Literal.ofValue literal.plain = .ok literal ↔ ¬ literal.IsOverOne) ∧
      ((Value.literal literal).natural = literal.plain.natural ↔ ¬ literal.IsOverOne) ∧
      (∀ numerator, literal = .nonUnitFraction numerator 1 →
        Literal.ofValue literal.plain = .ok (.unitFraction numerator) ∧ literal.plain.natural = .ok numerator ∧
          (Value.literal literal).natural = .error (Cause.nonUnitDenominator numerator 1).raise) ∧
      ∀ source, Literal.ofValue source = .ok literal →
        Literal.ofContents literal.name literal.contents = .ok literal ∧ (source.IsPlain → ¬ literal.IsOverOne) := by
  refine ⟨fun name contents => Literal.ofContents_eq_ok_iff, ?_, ?_, ?_, ?_⟩
  · -- A fraction over one is spelled as a row that is classified as its numerator.
    refine ⟨fun classified => ?_, Literal.ofValue_plain⟩
    rintro ⟨numerator, rfl⟩
    cases classified
  · constructor
    · -- The one is refused and the other one is a number.
      intro alike
      rintro ⟨numerator, rfl⟩
      cases alike
    · -- What is classified alike is read alike.
      intro proper
      simp only [Value.natural, Literal.ofValue_plain proper]
      rfl
  · rintro numerator rfl
    exact ⟨rfl, rfl, rfl⟩
  · -- Every literal is what its constructor makes of its contents, so it does not matter how it was classified.
    intro source classified
    exact ⟨Literal.ofContents_contents literal, fun new => Literal.not_isOverOne_of_ofValue new classified⟩

/-- Five over one is accepted as a proper fraction and then refused, although the same fraction in a list is five. -/
theorem fraction_over_one_refused :
    Literal.ofContents "NonUnitFraction" [.int 5, .int 1] = .ok (.nonUnitFraction 5 1) ∧
      Literal.ofValue (.list [.int 5, .int 1, .int 10]) = .ok (.unitFraction 5) ∧
      (Value.list [.int 5, .int 1, .int 10]).natural = .ok 5 ∧
      (Value.literal (.nonUnitFraction 5 1)).natural = .error (.classified ⟨.nonUnitDenominator,
        "cannot encode fraction field element 5/1", [("value", .int 5), ("denominator", .int 1)]⟩) := by
  -- Both numbers have texts, so that the refusal is worded.
  have short : 5 < Text.decimalBound := Nat.lt_of_lt_of_le (by decide) Text.fieldBound_le_decimalBound
  have shortBelow : 1 < Text.decimalBound := Nat.lt_of_lt_of_le (by decide) Text.fieldBound_le_decimalBound
  refine ⟨rfl, rfl, rfl, ?_⟩
  show Except.error (Cause.nonUnitDenominator 5 1).raise = _
  rw [Literal.raise_nonUnitDenominator, if_pos ⟨short, shortBelow⟩]
  rfl

end ProofWire
