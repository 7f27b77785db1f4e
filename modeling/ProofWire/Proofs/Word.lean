import Mathlib
import ProofWire.Artifact.Point

/-! Words and numbers determine each other: bytes of one width are the digits of a bounded number. -/

namespace ProofWire.Word

/-- A last byte multiplies what came before by the base. -/
theorem value_append_byte (content : Bytes) (byte : UInt8) :
    value (content ++ [byte]) = 256 * value content + byte.toNat := by
  -- The fold meets the last byte last.
  simp [value, List.foldl_append]

/-- A number that fits its word reads back. -/
theorem value_bytes (width number : Nat) (fits : number < 256 ^ width) :
    value (bytes width number) = number := by
  -- The last byte is the remainder, and the others hold the quotient.
  induction width generalizing number with
  | zero =>
    have zero : number = 0 := by simpa using fits
    simp [bytes, value, zero]
  | succ width ih =>
    have quotient : number / 256 < 256 ^ width := by
      rw [Nat.pow_succ] at fits
      omega
    rw [bytes, value_append_byte, ih _ quotient]
    simp only [UInt8.toNat_ofNat']
    omega

/-- The number of some bytes has no more digits than there are bytes. -/
theorem value_lt (content : Bytes) : value content < 256 ^ content.length := by
  -- A last byte adds one digit.
  induction content using List.reverseRecOn with
  | nil => simp [value]
  | append_singleton front byte ih =>
    have digit := byte.toNat_lt
    rw [value_append_byte, List.length_append, List.length_singleton, Nat.pow_succ]
    omega

/-- Bytes are the word of their own number. -/
theorem bytes_value (content : Bytes) : bytes content.length (value content) = content := by
  -- The last byte is the remainder, and the bytes before it are the word of the quotient.
  induction content using List.reverseRecOn with
  | nil => rfl
  | append_singleton front byte ih =>
    have digit : byte.toNat < 256 := byte.toNat_lt
    have quotient : (256 * value front + byte.toNat) / 256 = value front := by omega
    have remainder : (256 * value front + byte.toNat) % 256 = byte.toNat := by omega
    rw [value_append_byte, List.length_append, List.length_singleton, bytes, quotient, remainder, ih,
      UInt8.ofNat_toNat]

/-- Numbers that fit a width have different words. -/
theorem bytes_injOn {width left right : Nat} (leftFits : left < 256 ^ width) (rightFits : right < 256 ^ width)
    (same : bytes width left = bytes width right) : left = right := by
  -- Each word reads back as its number.
  rw [← value_bytes width left leftFits, same, value_bytes width right rightFits]

/-- Bytes with another byte in one place have another number. -/
theorem value_set_ne {content : Bytes} {place : Nat} {byte : UInt8} (inside : place < content.length)
    (new : content[place]? ≠ some byte) : value (content.set place byte) ≠ value content := by
  intro same
  -- Both are the words of their numbers in one width, so they would be the same bytes.
  have word := bytes_value (content.set place byte)
  rw [List.length_set, same, bytes_value] at word
  apply new
  rw [word, List.getElem?_set_self inside]

/-- Coordinates have fewer bits than a field word. -/
theorem baseModulus_lt_fieldBound : baseModulus < fieldBound := by
  decide

/-- Scalars have fewer bits than a field word. -/
theorem scalarModulus_lt_fieldBound : scalarModulus < fieldBound := by
  decide

/-- The checked word of a number that fits is the plain one. -/
theorem field_of_fits {number : Nat} (fits : number < fieldBound) :
    field (.int number) = .ok (fieldWord number) := by
  -- A whole number from zero on meets the bound and nothing else.
  show fieldOfInteger (Int.ofNat number) = _
  simp [fieldOfInteger, fits]

end ProofWire.Word
