import ProofWire.Failure.Basic

/-! Words: numbers as a fixed number of bytes, the most significant one first. -/

namespace ProofWire.Word

/-- The low-order bytes of a number, as many as the width says. -/
def bytes : Nat → Nat → Bytes
  | 0, _ => []
  | width + 1, value => bytes width (value / 256) ++ [UInt8.ofNat (value % 256)]

/-- The number that bytes denote. -/
def value (content : Bytes) : Nat :=
  content.foldl (fun number byte => 256 * number + byte.toNat) 0

/-- A word has its width whatever the number. -/
@[simp] theorem length_bytes (width number : Nat) : (bytes width number).length = width := by
  -- Each step appends one byte.
  induction width generalizing number with
  | zero => rfl
  | succ width ih => simp [bytes, ih]

/-- The bytes of a field word. -/
def fieldSize : Nat := 32

/-- The bytes of a count. -/
def countSize : Nat := 4

/-- Field words hold numbers below this bound. -/
def fieldBound : Nat := Nat.pow 256 fieldSize

/-- Counts lie below this bound. -/
def countBound : Nat := Nat.pow 256 countSize

/-- The field word of a whole number, which has to fit. -/
def fieldOfInteger : Int → Except Failure Bytes
  | .ofNat number =>
    if number < fieldBound then .ok (bytes fieldSize number)
    else .error (Cause.wordOverflow number).raise
  | .negSucc _ => .error .negativeWord

/-- The field word of a value, which has to be a whole number. -/
def field (number : Value) : Except Failure Bytes :=
  match number.integer? with
  | some whole => fieldOfInteger whole
  | none => .error .noSuchOperation

/-- The count word of a value: the bounds are tested on any number, the bytes exist for whole ones. -/
def count (number : Value) : Except Failure Bytes :=
  match number, number.integer? with
  | _, some whole =>
    if 0 ≤ whole ∧ whole < countBound then .ok (bytes countSize whole.toNat)
    else .error (Cause.countOutOfRange number).raise
  | .float real, none =>
    if real.isWithin (countBound - 1) then .error .noSuchOperation
    else .error (Cause.countOutOfRange number).raise
  | _, none => .error .wrongType

end ProofWire.Word
