import ProofWire.Artifact.Decode
import ProofWire.Proofs.Text.Hex
import ProofWire.Proofs.Word

/-! Slices: decoders read the bytes that a value carries, and the words that lie in them. -/

namespace ProofWire.Decode

/-- A value that carries bytes: the bytes themselves, or text that spells them. -/
inductive Carries (content : Bytes) : Value → Prop where
  | bytes : Carries content (.bytes content)
  | text {text : String} (spelled : Text.Spells text content) : Carries content (.text text)

/-- Bytes are read from every value that carries them. -/
theorem bytes_of_carries {given : Value} {content : Bytes} (carried : Carries content given) :
    Decode.bytes given = .ok content := by
  -- Bytes carry themselves, and a text carries those that it spells.
  cases carried with
  | bytes => rfl
  | text spelled => exact hexText_of_spells spelled

/-- Every slice holds a number that fits a field word. -/
theorem wordAt_lt (content : Bytes) (offset : Nat) : wordAt content offset < Word.fieldBound := by
  -- A slice at the end may be shorter than a word, never longer.
  have short : ((content.drop offset).take Word.fieldSize).length ≤ Word.fieldSize :=
    List.length_take_le _ _
  exact Nat.lt_of_lt_of_le (Word.value_lt _) (Nat.pow_le_pow_right (by decide) short)

/-- A slice that lies within the bytes is the word of its number. -/
theorem fieldWord_wordAt {content : Bytes} {offset : Nat} (inside : offset + Word.fieldSize ≤ content.length) :
    fieldWord (wordAt content offset) = (content.drop offset).take Word.fieldSize := by
  -- Nothing cuts the slice short, so it is the word of its own number.
  have sized : ((content.drop offset).take Word.fieldSize).length = Word.fieldSize := by
    rw [List.length_take, List.length_drop]
    omega
  have whole := Word.bytes_value ((content.drop offset).take Word.fieldSize)
  rwa [sized] at whole

/-- Behind any bytes, words in a row are read in their places. -/
theorem wordAt_flatMap (head : Bytes) {numbers : List Nat}
    (fits : ∀ number ∈ numbers, number < Word.fieldBound) {place : Nat} (inside : place < numbers.length) :
    wordAt (head ++ numbers.flatMap fieldWord) (head.length + place * Word.fieldSize) = numbers[place] := by
  -- Each word that is passed joins the bytes in front.
  induction numbers generalizing head place with
  | nil => simp at inside
  | cons number rest ih =>
    rw [List.flatMap_cons]
    cases place with
    | zero =>
      -- The slice in front is the word of the first number.
      have front : ((fieldWord number ++ rest.flatMap fieldWord).take Word.fieldSize) = fieldWord number := by
        rw [List.take_append_of_le_length (by simp), List.take_of_length_le (by simp)]
      simp only [wordAt, Nat.zero_mul, Nat.add_zero, List.drop_left, front, List.getElem_cons_zero]
      exact Word.value_bytes _ _ (fits number (by simp))
    | succ place =>
      -- The place counts from the end of the longer front.
      have moved : head.length + (place + 1) * Word.fieldSize
          = (head ++ fieldWord number).length + place * Word.fieldSize := by
        rw [List.length_append, Word.length_bytes, Nat.succ_mul]
        omega
      rw [← List.append_assoc, moved]
      exact ih (head ++ fieldWord number) (fun other member => fits other (by simp [member])) (by simpa using inside)

/-- Bytes that divide into words are the words of their slices. -/
theorem flatMap_wordAt {content : Bytes} {offset count : Nat}
    (sized : content.length = offset + count * Word.fieldSize) :
    ((List.range count).map fun place => wordAt content (offset + place * Word.fieldSize)).flatMap fieldWord
      = content.drop offset := by
  -- The first slice is followed by the slices from one word further on.
  induction count generalizing offset with
  | zero => simp [List.drop_of_length_le, sized]
  | succ count ih =>
    rw [Nat.succ_mul] at sized
    -- The rest begins one word further on.
    have later := @ih (offset + Word.fieldSize) (by omega)
    have moved : (fun place => wordAt content (offset + (place + 1) * Word.fieldSize))
        = fun place => wordAt content (offset + Word.fieldSize + place * Word.fieldSize) := by
      funext place
      rw [Nat.succ_mul]
      congr 1
      omega
    rw [List.range_succ_eq_map, List.map_cons, List.flatMap_cons, List.map_map]
    simp only [Function.comp_def, Nat.succ_eq_add_one, moved, later, Nat.zero_mul, Nat.add_zero]
    rw [fieldWord_wordAt (by omega), ← List.drop_drop, List.take_append_drop]

end ProofWire.Decode
