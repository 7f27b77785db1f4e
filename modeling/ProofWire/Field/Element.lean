import ProofWire.Literal.Classify
import ProofWire.Word.Basic

/-! Field elements: numbers below a modulus, read from literals and written as words. -/

namespace ProofWire

/-- An element of the scalar field. -/
structure Scalar where
  value : Nat
  inRange : value < scalarModulus

/-- An element of the base field. -/
structure Coordinate where
  value : Nat
  inRange : value < baseModulus

namespace Scalar

/-- The scalar that a literal denotes. -/
def ofValue (source : Value) : Except Failure Scalar := do
  let value ← source.natural
  if inRange : value < scalarModulus then return ⟨value, inRange⟩
  else .error (Cause.scalarOutOfRange value).raise

/-- The word of a scalar. -/
def word (scalar : Scalar) : Bytes :=
  Word.bytes Word.fieldSize scalar.value

end Scalar

namespace Coordinate

/-- The coordinate that a literal denotes; its faults carry the label. -/
def ofValue (label : String) (source : Value) : Except Failure Coordinate := do
  let value ← located [("label", .text label)] source.natural
  if inRange : value < baseModulus then return ⟨value, inRange⟩
  else .error (Cause.coordinateOutOfRange value label).raise

/-- The word of a coordinate. -/
def word (coordinate : Coordinate) : Bytes :=
  Word.bytes Word.fieldSize coordinate.value

end Coordinate

end ProofWire
