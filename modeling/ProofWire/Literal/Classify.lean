import ProofWire.Failure.Basic
import ProofWire.Text.Blank

/-! Reading literals: which spelling a value is, and the number it denotes. -/

namespace ProofWire

namespace Literal

/-- The content of a literal that holds a number: a whole number from zero on that is no truth value. -/
def number (role : String) : Value → Except Failure Nat
  | .int (.ofNat number) => .ok number
  | .int negative => .error (Cause.negativeNumber negative).raise
  | other => .error (Cause.notNumber role other.shape).raise

/-- A minus sign directly before an accepted numeral. -/
def isNegated (accepts : List Char → Bool) : List Char → Bool
  | '-' :: numeral => accepts numeral
  | _ => false

/-- The content of a literal that holds text: an accepted numeral with nothing around it. -/
def numeral (role : String) (accepts : List Char → Bool) :
    Value → Except Failure { text : String // accepts text.toList = true }
  | .text text =>
    if accepted : accepts text.toList = true then .ok ⟨text, accepted⟩
    else if isNegated accepts text.toList then .error (Cause.negativeText text text).raise
    else .error (Cause.malformedText role text).raise
  | other => .error (Cause.notText role other.shape).raise

/-- A literal from its name and contents; the first unfit content decides the failure. -/
def ofContents : String → List Value → Except Failure Literal
  | "IntegerLiteral", [value] => do
    let value ← number "integer literal" value
    return .integer value
  | "DecimalString", [text] => do
    let text ← numeral "decimal literal" Text.isDecimal text
    return .decimal ⟨text.val, text.property⟩
  | "HexString", [text] => do
    let text ← numeral "hex literal" Text.isHex text
    return .hex ⟨text.val, text.property⟩
  | "UnitFraction", [numerator] => do
    let numerator ← number "fraction numerator" numerator
    return .unitFraction numerator
  | "NonUnitFraction", [numerator, denominator] => do
    let numerator ← number "fraction numerator" numerator
    let denominator ← number "fraction denominator" denominator
    return .nonUnitFraction numerator denominator
  | _, _ => .error .wrongType

/-- Text is a marked hexadecimal numeral or a decimal one, blanks around it aside. -/
def ofText (source : String) : Except Failure Literal :=
  let text := Text.strip source.toList
  if text.isEmpty then .error (Cause.emptyNumeral source).raise
  else if hex : Text.isHex text = true then
    .ok (.hex ⟨String.ofList text, by rw [String.toList_ofList]; exact hex⟩)
  else if decimal : Text.isDecimal text = true then
    .ok (.decimal ⟨String.ofList text, by rw [String.toList_ofList]; exact decimal⟩)
  else if isNegated Text.isDecimal text || isNegated Text.isHex text then
    .error (Cause.negativeText (String.ofList text) source).raise
  else .error (Cause.malformedNumeral source).raise

/-- A whole number from zero on is a literal. -/
def ofInteger : Int → Except Failure Literal
  | .ofNat value => .ok (.integer value)
  | negative => .error (Cause.negativeNumber negative).raise

/-- The literal that a value other than a sequence is. -/
def ofScalar : Value → Except Failure Literal
  | .literal known => .ok known
  | .int value => ofInteger value
  | .float value =>
    match value.integer? with
    | some whole => ofInteger whole
    | none => .error (Cause.fractional value).raise
  | .text source => ofText source
  | other => .error (Cause.unsupportedElement other.shape).raise

/-- The number that a literal denotes; decimal text is limited in length, and a proper fraction denotes none. -/
def value : Literal → Except Failure Nat
  | .integer value => .ok value
  | .decimal numeral =>
    let digits := numeral.text.toList
    if digits.length ≤ Text.maxDigits then .ok (Text.decimalValue digits)
    else .error (Cause.longDecimal digits.length).raise
  | .hex numeral => .ok (Text.hexValue numeral.digits)
  | .unitFraction numerator => .ok numerator
  | .nonUnitFraction numerator denominator =>
    .error (Cause.nonUnitDenominator numerator denominator).raise

/-- The parts of a fraction are no sequences themselves. -/
def fractionPart (part : Value) : Except Failure Nat :=
  match part.items? with
  | some _ => .error (Cause.unsupportedFractionPart part.shape).raise
  | none => do
    let literal ← ofScalar part
    literal.value

/-- The literal that a value is; three items are numerator, denominator and a radix that does not matter. -/
def ofValue (source : Value) : Except Failure Literal :=
  match source.items? with
  | some [numerator, denominator, _] => do
    let numerator ← fractionPart numerator
    let denominator ← fractionPart denominator
    return if denominator = 1 then .unitFraction numerator
      else .nonUnitFraction numerator denominator
  | _ => ofScalar source

end Literal

/-- The number that a value denotes as a literal. -/
def Value.natural (source : Value) : Except Failure Nat := do
  let literal ← Literal.ofValue source
  literal.value

end ProofWire
