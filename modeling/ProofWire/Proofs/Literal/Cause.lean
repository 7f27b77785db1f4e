import ProofWire.Proofs.Literal.Writable

/-! The causes for which a value is refused as a literal: their kinds, and that none of them knows a place. -/

namespace ProofWire

/-- A failure is raised for one of some causes. -/
def Failure.RaisedFor (causes : Cause → Prop) (failure : Failure) : Prop :=
  ∃ cause, causes cause ∧ failure = cause.raise

namespace Literal

/-- The causes for which a value is refused as a literal. -/
inductive Refuses : Cause → Prop where
  | negativeNumber (value : Int) : Refuses (.negativeNumber value)
  | negativeText (numeral source : String) : Refuses (.negativeText numeral source)
  | emptyNumeral (source : String) : Refuses (.emptyNumeral source)
  | malformedNumeral (source : String) : Refuses (.malformedNumeral source)
  | longDecimal (length : Nat) : Refuses (.longDecimal length)
  | fractional (number : Binary64) : Refuses (.fractional number)
  | unsupportedElement (shape : String) : Refuses (.unsupportedElement shape)
  | unsupportedFractionPart (shape : String) : Refuses (.unsupportedFractionPart shape)
  | nonUnitDenominator (numerator denominator : Nat) : Refuses (.nonUnitDenominator numerator denominator)

/-- The kinds of faults by which a value is refused as a literal. -/
def faultKinds : List FaultKind :=
  [.nonIntegerLiteral, .malformedLiteral, .negativeLiteral, .unsupportedLiteralType, .nonUnitDenominator]

/-- The causes that refuse literals have their kinds. -/
theorem Refuses.kind_mem {cause : Cause} (refuses : Refuses cause) : cause.kind ∈ faultKinds := by
  cases refuses <;> simp [Cause.kind, faultKinds]

/-- No cause that refuses a literal knows a place. -/
theorem Refuses.unplaced {cause : Cause} (refuses : Refuses cause) :
    cause.context.lookup "label" = none ∧ cause.context.lookup "index" = none := by
  cases refuses <;> exact ⟨rfl, rfl⟩

/-- A whole number is refused for its sign. -/
theorem raised_ofInteger {whole : Int} {failure : Failure} (failed : ofInteger whole = .error failure) :
    failure.RaisedFor Refuses := by
  -- The sign is all that can be wrong with a whole number.
  cases whole with
  | ofNat number => cases failed
  | negSucc number => exact ⟨_, .negativeNumber _, (Except.error.inj failed).symm⟩

/-- A value other than a sequence is refused for its sign, its form or its kind. -/
theorem raised_ofScalar {source : Value} {failure : Failure} (failed : ofScalar source = .error failure) :
    failure.RaisedFor Refuses := by
  -- The kind of the value decides which causes there are.
  cases source with
  | literal known => cases failed
  | int number => exact raised_ofInteger failed
  | float number =>
    simp only [ofScalar] at failed
    split at failed
    · exact raised_ofInteger failed
    · exact ⟨_, .fractional number, (Except.error.inj failed).symm⟩
  | text content =>
    -- Text that is no numeral is empty, negated or malformed.
    simp only [ofScalar, ofText] at failed
    split at failed
    · exact ⟨_, .emptyNumeral content, (Except.error.inj failed).symm⟩
    · split at failed
      · cases failed
      · split at failed
        · cases failed
        · split at failed
          · exact ⟨_, .negativeText _ content, (Except.error.inj failed).symm⟩
          · exact ⟨_, .malformedNumeral content, (Except.error.inj failed).symm⟩
  | _ => exact ⟨_, .unsupportedElement _, (Except.error.inj failed).symm⟩

/-- A literal without a number is too long a decimal text or a proper fraction. -/
theorem raised_value {literal : Literal} {failure : Failure} (failed : literal.value = .error failure) :
    failure.RaisedFor Refuses := by
  -- Every other literal has its number.
  cases literal with
  | decimal numeral =>
    simp only [value] at failed
    split at failed
    · cases failed
    · exact ⟨_, .longDecimal _, (Except.error.inj failed).symm⟩
  | nonUnitFraction numerator denominator =>
    exact ⟨_, .nonUnitDenominator numerator denominator, (Except.error.inj failed).symm⟩
  | _ => cases failed

/-- A part of a fraction is refused as any value is, or for being a sequence. -/
theorem raised_fractionPart {part : Value} {failure : Failure} (failed : fractionPart part = .error failure) :
    failure.RaisedFor Refuses := by
  -- The part is a sequence, no literal, or a literal without a number.
  unfold fractionPart at failed
  split at failed
  · exact ⟨_, .unsupportedFractionPart _, (Except.error.inj failed).symm⟩
  · rcases bind_eq_error_iff.mp failed with refused | ⟨literal, _, refused⟩
    · exact raised_ofScalar refused
    · exact raised_value refused

/-- A value is refused by the first part of it that is no literal, or by what they are together. -/
theorem raised_ofValue {source : Value} {failure : Failure} (failed : ofValue source = .error failure) :
    failure.RaisedFor Refuses := by
  -- A row of three is a fraction, whose parts are read in order and whose third item is ignored.
  unfold ofValue at failed
  split at failed
  · rcases bind_eq_error_iff.mp failed with refused | ⟨above, _, later⟩
    · exact raised_fractionPart refused
    · rcases bind_eq_error_iff.mp later with refused | ⟨below, _, done⟩
      · exact raised_fractionPart refused
      · cases done
  · exact raised_ofScalar failed

end Literal

/-- A value that denotes no number is refused for one of the causes of literals. -/
theorem Value.raised_natural {source : Value} {failure : Failure} (failed : source.natural = .error failure) :
    failure.RaisedFor Literal.Refuses := by
  -- It is not classified, or its literal has no number.
  rcases bind_eq_error_iff.mp failed with refused | ⟨literal, _, refused⟩
  · exact Literal.raised_ofValue refused
  · exact Literal.raised_value refused

namespace Failure

/-- The fault that a raised failure becomes under more context is of the kind of its cause. -/
theorem RaisedFor.kind_of_mention {causes : Cause → Prop} {failure : Failure} {entries : Context} {fault : Fault}
    (raised : failure.RaisedFor causes) (same : failure.mention entries = .classified fault) :
    ∃ cause, causes cause ∧ fault.kind = cause.kind := by
  obtain ⟨cause, among, rfl⟩ := raised
  rcases cause.raise_cases with ⟨message, faulty⟩ | ⟨unwritten, _⟩
  · -- A mention leaves the kind as it is.
    rw [faulty] at same
    cases same
    exact ⟨cause, among, rfl⟩
  · rw [unwritten] at same
    cases same

/-- A failure that is raised for a cause and can be worded is the fault of that cause. -/
theorem RaisedFor.exists_fault {causes : Cause → Prop} {short : Prop} {failure : Failure}
    (raised : failure.RaisedFor causes) (unlocated : failure.Unlocated short) (holds : short) :
    ∃ cause message, causes cause ∧ failure = .classified ⟨cause.kind, message, cause.context⟩ := by
  obtain ⟨cause, among, rfl⟩ := raised
  rcases cause.raise_cases with ⟨message, faulty⟩ | ⟨unwritten, _⟩
  · exact ⟨cause, message, among, faulty⟩
  · -- The failure to write a message is not what a worded cause raises.
    obtain ⟨other, same, _, worded⟩ := unlocated
    obtain ⟨message, written⟩ := Option.isSome_iff_exists.mp (worded holds)
    rw [unwritten, other.raise_eq_classified written] at same
    cases same

end Failure

end ProofWire
