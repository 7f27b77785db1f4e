import ProofWire.Fault.Basic
import ProofWire.Field.Modulus

/-! Causes: every reason for which an encoder or a decoder refuses its input, and its wording. -/

namespace ProofWire

/-- Why an input is refused, with what is needed to say so. -/
inductive Cause where
  | negativeNumber (value : Int)
  | negativeText (numeral source : String)
  | unsupportedElement (shape : String)
  | unsupportedFractionPart (shape : String)
  | notNumber (role shape : String)
  | notText (role shape : String)
  | emptyNumeral (source : String)
  | malformedNumeral (source : String)
  | malformedText (role text : String)
  | longDecimal (length : Nat)
  | malformedHex (length : Nat)
  | fractional (number : Binary64)
  | nonUnitDenominator (numerator denominator : Nat)
  | wordOverflow (value : Nat)
  | scalarOutOfRange (value : Nat)
  | coordinateOutOfRange (value : Nat) (label : String)
  | countOutOfRange (value : Value)
  | pointShape (group : String) (label : Option String) (shape : String)
  | pointPartShapes (label : Option String) (x y z : String)
  | pointZLength (label : Option String) (shape : String)
  | pointLengths (label : Option String) (x y : String)
  | nonAffineG1 (label : Option String) (z : Nat)
  | nonAffineG2 (label : Option String) (z0 z1 : Nat)
  | notObject (key shape : String)
  | missingField (key : String)
  | notArray (role shape : String)
  | proofLength (length : Nat)
  | publicTooShort (length : Nat)
  | publicLength (count expected length : Nat)

namespace Cause

/-- The kind of fault that a cause gives. -/
def kind : Cause → FaultKind
  | .negativeNumber _ | .negativeText _ _ => .negativeLiteral
  | .unsupportedElement _ | .unsupportedFractionPart _ | .notNumber _ _ | .notText _ _ =>
    .unsupportedLiteralType
  | .emptyNumeral _ | .malformedNumeral _ | .malformedText _ _ | .longDecimal _ | .malformedHex _ =>
    .malformedLiteral
  | .fractional _ => .nonIntegerLiteral
  | .nonUnitDenominator _ _ => .nonUnitDenominator
  | .wordOverflow _ => .fieldWidthOverflow
  | .scalarOutOfRange _ => .fieldElementOutOfRange
  | .coordinateOutOfRange _ _ => .coordinateOutOfRange
  | .pointShape _ _ _ | .pointPartShapes _ _ _ _ => .invalidPointFormat
  | .pointZLength _ _ | .pointLengths _ _ _ => .malformedExtensionField
  | .nonAffineG1 _ _ | .nonAffineG2 _ _ _ => .category .nonAffine
  | .notObject _ _ | .missingField _ => .missingField
  | .notArray _ _ => .notAnArray
  | .countOutOfRange _ | .proofLength _ | .publicTooShort _ | .publicLength _ _ _ => .invalidLength

/-- The wording of a cause; nothing when it would show a number too long to write. -/
def message? : Cause → Option String
  | .negativeNumber value => do
    let value ← Text.decimal? value
    return s!"negative field element: {value}"
  | .negativeText numeral _ => some s!"negative field element: {numeral}"
  | .unsupportedElement shape => some s!"unsupported field element type: {shape}"
  | .unsupportedFractionPart shape => some s!"unsupported fraction component: {shape}"
  | .notNumber role shape => some s!"{role} must be an int, got {shape}"
  | .notText role shape => some s!"{role} must be a str, got {shape}"
  | .emptyNumeral _ => some "empty string field element"
  | .malformedNumeral source => some s!"malformed numeric literal: {Text.quoted source}"
  | .malformedText role text => some s!"malformed {role}: {Text.quoted text}"
  | .longDecimal length => some s!"decimal literal too long: {length} digits"
  | .malformedHex length => some s!"invalid hex string ({length} chars)"
  | .fractional number => some s!"non-integer numeric field element: {number.text}"
  | .nonUnitDenominator numerator denominator => do
    let numerator ← Text.decimal? numerator
    let denominator ← Text.decimal? denominator
    return s!"cannot encode fraction field element {numerator}/{denominator}"
  | .wordOverflow value => do
    let value ← Text.decimal? value
    return s!"field element exceeds 32 bytes: {value}"
  | .scalarOutOfRange value => do
    let value ← Text.decimal? value
    return s!"field element {value} >= modulus {scalarModulus}"
  | .coordinateOutOfRange value _ => do
    let value ← Text.decimal? value
    return s!"coordinate {value} >= modulus {baseModulus}"
  | .countOutOfRange value => do
    let value ← value.shown?
    return s!"value out of u32 range: {value}"
  | .pointShape group _ shape => some s!"invalid {group} point format ({shape})"
  | .pointPartShapes _ x y z =>
    some s!"invalid G2 format - coordinates must be arrays ({x}, {y}, {z})"
  | .pointZLength _ shape => some s!"invalid G2 Fp2 format - z must have 2 elements ({shape})"
  | .pointLengths _ x y => some s!"invalid G2 Fp2 format - must have 2 elements ({x}, {y})"
  | .nonAffineG1 _ z => do
    let z ← Text.decimal? z
    return s!"non-affine G1 point (z={z})"
  | .nonAffineG2 _ z0 z1 => do
    let z0 ← Text.decimal? z0
    let z1 ← Text.decimal? z1
    return s!"non-affine G2 point (z=[{z0}, {z1}])"
  | .notObject key shape => some s!"expected an object with \"{key}\", got {shape}"
  | .missingField key => some s!"missing field \"{key}\""
  | .notArray role shape => some s!"{role} must be an array, got {shape}"
  | .proofLength length => some s!"proof must be 256 bytes, got {length}"
  | .publicTooShort length => some s!"public inputs must be at least 4 bytes, got {length}"
  | .publicLength count expected length =>
    some s!"public inputs declare {count} elements ({expected} bytes), got {length}"

/-- The label of a component, absent where a caller gave none. -/
def labelEntry : Option String → Context
  | some label => [("label", .text label)]
  | none => []

/-- What a fault knows from its cause alone. -/
def context : Cause → Context
  | .negativeNumber value => [("value", .int value)]
  | .negativeText _ source | .emptyNumeral source | .malformedNumeral source
  | .malformedText _ source => [("value", .text source)]
  | .unsupportedElement shape | .unsupportedFractionPart shape | .notNumber _ shape
  | .notText _ shape | .notArray _ shape => [("shape", .text shape)]
  | .longDecimal _ | .malformedHex _ => []
  | .fractional number => [("value", .float number)]
  | .nonUnitDenominator numerator denominator =>
    [("value", .int numerator), ("denominator", .int denominator)]
  | .wordOverflow value => [("value", .int value)]
  | .scalarOutOfRange value => [("value", .int value), ("modulus", .int scalarModulus)]
  | .coordinateOutOfRange value label =>
    [("label", .text label), ("value", .int value), ("modulus", .int baseModulus)]
  | .countOutOfRange value => [("value", value)]
  | .pointShape _ label shape => labelEntry label ++ [("shape", .text shape)]
  | .pointPartShapes label _ _ _ | .pointZLength label _ | .pointLengths label _ _ => labelEntry label
  | .nonAffineG1 label z => labelEntry label ++ [("value", .int z)]
  | .nonAffineG2 label z0 z1 => labelEntry label ++ [("value", .tuple [.int z0, .int z1])]
  | .notObject key shape => [("label", .text key), ("shape", .text shape)]
  | .missingField key => [("label", .text key)]
  | .proofLength length | .publicTooShort length | .publicLength _ _ length =>
    [("value", .int length)]

end Cause

end ProofWire
