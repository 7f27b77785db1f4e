import ProofWire.Text.Numeral

/-! Numeric literals: the accepted spellings of one number. -/

namespace ProofWire

/-- Text that is a decimal numeral, leading zeros included. -/
structure DecimalText where
  text : String
  isDecimal : Text.isDecimal text.toList = true

/-- Text that is a marked hexadecimal numeral. -/
structure HexText where
  text : String
  isHex : Text.isHex text.toList = true

/-- The digits after the mark. -/
def HexText.digits (numeral : HexText) : List Char :=
  numeral.text.toList.drop 2

/-- A numeric literal by its spelling; a fraction keeps no radix. -/
inductive Literal where
  | integer (value : Nat)
  | decimal (numeral : DecimalText)
  | hex (numeral : HexText)
  | unitFraction (numerator : Nat)
  | nonUnitFraction (numerator denominator : Nat)

/-- The name of a spelling. -/
def Literal.name : Literal → String
  | .integer _ => "IntegerLiteral"
  | .decimal _ => "DecimalString"
  | .hex _ => "HexString"
  | .unitFraction _ => "UnitFraction"
  | .nonUnitFraction _ _ => "NonUnitFraction"

end ProofWire
