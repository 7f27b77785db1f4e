import ProofWire.Proofs.Text.Numeral
import ProofWire.Proofs.Word

/-! Exact words: the shortest bytes of a number behind zeros are its word, which keeps the number and its order. -/

namespace ProofWire

/-- The fault of a number that does not fit a field word. -/
def Fault.wordOverflow (number : Nat) : Fault :=
  ⟨.fieldWidthOverflow, s!"field element exceeds 32 bytes: {number}", [("value", .int number)]⟩

/-- The fault of a number that is no count. -/
def Fault.countOutOfRange (number : Int) : Fault :=
  ⟨.invalidLength, s!"value out of u32 range: {number}", [("value", .int number)]⟩

namespace Word

/-- Bytes in front weigh as much as the ones behind leave room for. -/
theorem value_append (front back : Bytes) :
    value (front ++ back) = 256 ^ back.length * value front + value back := by
  -- Every byte behind moves the front up by one place.
  induction back using List.reverseRecOn with
  | nil => simp [value]
  | append_singleton back byte ih =>
    rw [← List.append_assoc, value_append_byte, value_append_byte, ih, List.length_append, List.length_singleton]
    ring

/-- The first byte weighs most. -/
theorem value_cons (byte : UInt8) (rest : Bytes) :
    value (byte :: rest) = 256 ^ rest.length * byte.toNat + value rest := by
  have split := value_append [byte] rest
  simpa [value] using split

/-- Zeros in front do not count. -/
theorem value_leftpad (width : Nat) (content : Bytes) : value (content.leftpad width 0) = value content := by
  -- Zeros in front have the value zero.
  have zeros : ∀ count : Nat, value (List.replicate count 0) = 0 := by
    intro count
    induction count with
    | zero => rfl
    | succ count ih => rw [List.replicate_succ, value_cons, ih]; rfl
  rw [List.leftpad, value_append, zeros, Nat.mul_zero, Nat.zero_add]

/-- The number of some bytes is the one whose digits in base 256 they are, the last of them of weight one. -/
theorem value_eq_ofDigits (content : Bytes) : value content = Nat.ofDigits 256 (content.reverse.map UInt8.toNat) := by
  -- Induction from the last byte, which is the lowest digit.
  induction content using List.reverseRecOn with
  | nil => rfl
  | append_singleton front byte ih =>
    rw [value_append_byte, ih, List.reverse_append, List.reverse_singleton, List.singleton_append, List.map_cons,
      Nat.ofDigits_cons, Nat.add_comm]

/-- Bytes of one length are ordered as their numbers are. -/
theorem value_lt_value_iff {left right : Bytes} (sized : left.length = right.length) :
    value left < value right ↔ left < right := by
  induction left generalizing right with
  | nil =>
    obtain rfl : right = [] := List.length_eq_zero_iff.mp sized.symm
    simp
  | cons first rest ih =>
    cases right with
    | nil => cases sized
    | cons other others =>
      have sized : rest.length = others.length := Nat.succ.inj sized
      have low := value_lt rest
      have lowOther := value_lt others
      rw [List.cons_lt_cons_iff, ← ih sized, value_cons, value_cons, sized, UInt8.lt_iff_toNat_lt, ← UInt8.toNat_inj]
      rw [sized] at low
      generalize 256 ^ others.length = weight at low lowOther ⊢
      -- What stands behind the first byte weighs less than one more in the first byte.
      rcases Nat.lt_trichotomy first.toNat other.toNat with below | same | above
      · have step := Nat.mul_le_mul_left weight below
        rw [Nat.mul_succ] at step
        omega
      · rw [same]
        omega
      · have step := Nat.mul_le_mul_left weight above
        rw [Nat.mul_succ] at step
        omega

/-- Bytes denote a number, and no fewer bytes do; even zero takes one byte. -/
structure IsShortest (number : Nat) (content : Bytes) : Prop where
  filled : content ≠ []
  denotes : value content = number
  least : ∀ other, other ≠ [] → value other = number → content.length ≤ other.length

/-- The shortest bytes of a number. -/
def shortest (number : Nat) : Bytes :=
  bytes (Nat.log 256 number + 1) number

/-- The logarithm tells how many bytes a number needs. -/
theorem isShortest_shortest (number : Nat) : IsShortest number (shortest number) where
  filled := by
    apply List.ne_nil_of_length_pos
    rw [shortest, length_bytes]
    exact Nat.succ_pos _
  denotes := value_bytes _ _ (Nat.lt_pow_succ_log_self (by decide) number)
  least := by
    intro other filled denoted
    rw [shortest, length_bytes]
    have bound := value_lt other
    rw [denoted] at bound
    by_cases zero : number = 0
    · -- Zero fits no bytes at all, so that only the demand for a byte makes it one.
      rw [zero, Nat.log_zero_right]
      exact List.length_pos_of_ne_nil filled
    · exact Nat.log_lt_of_lt_pow zero bound

namespace IsShortest

variable {number : Nat} {content : Bytes}

/-- A number has no other shortest bytes. -/
theorem unique {other : Bytes} (first : IsShortest number content) (second : IsShortest number other) :
    other = content := by
  -- Each is no longer than the other, and bytes of one length are determined by their number.
  have sized : other.length = content.length :=
    Nat.le_antisymm (second.least content first.filled first.denotes)
      (first.least other second.filled second.denotes)
  rw [← bytes_value other, ← bytes_value content, sized, second.denotes, first.denotes]

/-- The shortest bytes fit a width exactly when the number does. -/
theorem length_le_iff {width : Nat} (positive : 0 < width) (short : IsShortest number content) :
    content.length ≤ width ↔ number < 256 ^ width := by
  constructor
  · intro fits
    rw [← short.denotes]
    exact Nat.lt_of_lt_of_le (value_lt content) (Nat.pow_le_pow_right (by decide) fits)
  · intro fits
    -- The word of this width denotes the number, too.
    have word := short.least (bytes width number) (List.ne_nil_of_length_pos (by rwa [length_bytes]))
      (value_bytes width number fits)
    rwa [length_bytes] at word

/-- Behind zeros, the shortest bytes of a number that fits are its word. -/
theorem leftpad_eq {width : Nat} (positive : 0 < width) (short : IsShortest number content)
    (fits : number < 256 ^ width) : content.leftpad width 0 = bytes width number := by
  -- With the zeros the bytes have the width, and then the number fixes them.
  have sized : (content.leftpad width 0).length = width := by
    rw [List.length_leftpad, Nat.max_eq_left ((short.length_le_iff positive).mpr fits)]
  have whole := bytes_value (content.leftpad width 0)
  rw [sized, value_leftpad, short.denotes] at whole
  exact whole.symm

/-- Bytes are the word of a number exactly when they are its shortest bytes behind zeros and have the width. -/
theorem word_iff {width : Nat} (positive : 0 < width) (short : IsShortest number content) {word : Bytes} :
    (number < 256 ^ width ∧ word = bytes width number) ↔ word = content.leftpad width 0 ∧ word.length = width := by
  constructor
  · rintro ⟨fits, rfl⟩
    exact ⟨(short.leftpad_eq positive fits).symm, length_bytes width number⟩
  · rintro ⟨rfl, sized⟩
    -- Longer bytes would not have been padded, and would have kept their length.
    rw [List.length_leftpad] at sized
    have fits := (short.length_le_iff positive).mp (max_eq_left_iff.mp sized)
    exact ⟨fits, short.leftpad_eq positive fits⟩

end IsShortest

/--
A writer of words of a width is exact.

It writes the numbers that fit the bits of a word and no others, its words read back, every row of bytes of the width
is the word of its own number, and words are ordered as their numbers are.
-/
structure Exact (width : Nat) (write : Value → Except Failure Bytes) : Prop where
  accepts : ∀ number : Nat, (∃ word, write (.int number) = .ok word) ↔ number < 2 ^ (8 * width)
  reads : ∀ (number : Nat) (word : Bytes), write (.int number) = .ok word → word.length = width ∧ value word = number
  restores : ∀ word : Bytes, word.length = width → write (.int (value word)) = .ok word
  ordered : ∀ (left right : Nat) (first second : Bytes), write (.int left) = .ok first →
    write (.int right) = .ok second → (left < right ↔ first < second)

/-- A writer is exact when it writes the word of each number that fits, and nothing else. -/
theorem exact_of_writes {width : Nat} {write : Value → Except Failure Bytes}
    (writes : ∀ (number : Nat) (word : Bytes), write (.int number) = .ok word ↔
      number < 256 ^ width ∧ word = bytes width number) : Exact width write := by
  -- Words of one width and numbers that fit correspond, in both directions and in order.
  have bits : 2 ^ (8 * width) = 256 ^ width := Nat.pow_mul 2 8 width
  have reads : ∀ (number : Nat) (word : Bytes), write (.int number) = .ok word →
      word.length = width ∧ value word = number := by
    intro number word written
    obtain ⟨fits, rfl⟩ := (writes number word).mp written
    exact ⟨length_bytes width number, value_bytes width number fits⟩
  refine ⟨fun number => ?_, reads, fun word sized => ?_, fun left right first second leftWritten rightWritten => ?_⟩
  · rw [bits]
    exact ⟨fun ⟨word, written⟩ => ((writes number word).mp written).1, fun fits => ⟨_, (writes number _).mpr ⟨fits, rfl⟩⟩⟩
  · refine (writes _ word).mpr ⟨?_, ?_⟩
    · exact sized ▸ value_lt word
    · rw [← sized, bytes_value]
  · obtain ⟨leftSized, rfl⟩ := reads left first leftWritten
    obtain ⟨rightSized, rfl⟩ := reads right second rightWritten
    exact value_lt_value_iff (leftSized.trans rightSized.symm)

/-- The field words that are written are the words of the numbers that fit. -/
theorem field_eq_ok_iff (number : Nat) (word : Bytes) :
    field (.int number) = .ok word ↔ number < 256 ^ fieldSize ∧ word = bytes fieldSize number := by
  -- The bound of a field word is the power that its width makes.
  show (if number < fieldBound then _ else _) = _ ↔ number < fieldBound ∧ _
  split
  · rename_i fits
    simp [fits, eq_comm]
  · rename_i large
    simp [large]

/-- The counts that are written are the words of the numbers that fit. -/
theorem count_eq_ok_iff (number : Nat) (word : Bytes) :
    count (.int number) = .ok word ↔ number < 256 ^ countSize ∧ word = bytes countSize number := by
  -- The bound of a count is the power that its width makes, and no number here is negative.
  have within : (0 ≤ (number : Int) ∧ (number : Int) < countBound) ↔ number < countBound := by
    generalize countBound = bound
    omega
  simp only [count, Value.integer?, within]
  show (if number < countBound then _ else _) = _ ↔ number < countBound ∧ _
  split
  · rename_i fits
    simp [fits, eq_comm]
  · rename_i large
    simp [large]

/-- A number that does not fit a field word is refused by its fault, if the number has a text. -/
theorem field_of_large {number : Nat} (large : fieldBound ≤ number) (written : number < Text.decimalBound) :
    field (.int number) = .error (.classified (.wordOverflow number)) := by
  -- The message shows the number.
  have worded : (Cause.wordOverflow number).message? = some s!"field element exceeds 32 bytes: {number}" := by
    simp only [Cause.message?, Text.decimal?_natCast written]
    rfl
  show (if number < fieldBound then _ else Except.error (Cause.wordOverflow number).raise) = _
  rw [if_neg (Nat.not_lt.mpr large), Cause.raise_eq_classified _ worded]
  rfl

/-- A whole number that is no count is refused by its fault, if the number has a text. -/
theorem count_of_outside {number : Int} (outside : ¬ (0 ≤ number ∧ number < countBound))
    (written : number.natAbs < Text.decimalBound) :
    count (.int number) = .error (.classified (.countOutOfRange number)) := by
  -- The message shows the number, whichever bound it misses.
  have worded : (Cause.countOutOfRange (.int number)).message? = some s!"value out of u32 range: {number}" := by
    simp only [Cause.message?, Value.shown?, Value.quoted?, Text.decimal?, if_pos written]
    rfl
  simp only [count, Value.integer?, if_neg outside, Cause.raise_eq_classified _ worded]
  rfl

/--
Words are exact.

Field words of 32 bytes and counts of four keep every number that fits, with its order, and refuse every other one
by a fault that shows it, as long as it has a text. The field word of a number is what its shortest bytes become behind
zeros, provided that they have the width then.
-/
theorem words_exact :
    Exact 32 field ∧ Exact 4 count ∧
      (∀ number : Nat, 2 ^ 256 ≤ number → number < Text.decimalBound →
        field (.int number) = .error (.classified (.wordOverflow number))) ∧
      (∀ number : Int, number < 0 ∨ 2 ^ 32 ≤ number → number.natAbs < Text.decimalBound →
        count (.int number) = .error (.classified (.countOutOfRange number))) ∧
      (∀ content, value content = Nat.ofDigits 256 (content.reverse.map UInt8.toNat)) ∧
      ∀ number : Nat, ∃ content, (∀ other, IsShortest number other ↔ other = content) ∧
        ∀ word, field (.int number) = .ok word ↔ word = content.leftpad 32 0 ∧ word.length = 32 := by
  -- Both writers are exact for the same reason; their faults differ.
  refine ⟨exact_of_writes field_eq_ok_iff, exact_of_writes count_eq_ok_iff, fun number => field_of_large, ?_,
    value_eq_ofDigits, fun number => ?_⟩
  · intro number outside
    refine count_of_outside ?_
    rintro ⟨low, high⟩
    rcases outside with negative | large
    · exact absurd low (Int.not_le.mpr negative)
    · exact absurd high (Int.not_lt.mpr large)
  · have short := isShortest_shortest number
    refine ⟨shortest number, fun other => ⟨short.unique, fun same => same ▸ short⟩, fun word => ?_⟩
    rw [field_eq_ok_iff]
    exact short.word_iff (by decide)

/-- A number of two bytes stands behind thirty zeros, and neither the first number of too many bits nor minus one has
a word. -/
theorem words_exact_two_bytes_and_outside :
    field (.int 258) = .ok (List.replicate 30 0 ++ [1, 2]) ∧
      field (.int (2 ^ 256 : Nat)) = .error (.classified (.wordOverflow (2 ^ 256))) ∧
      count (.int (-1)) = .error (.classified (.countOutOfRange (-1))) := by
  obtain ⟨fields, _, large, outside, _, _⟩ := words_exact
  have denoted : value (List.replicate 30 0 ++ [1, 2]) = 258 := by decide
  have word := fields.restores (List.replicate 30 0 ++ [1, 2]) rfl
  rw [denoted] at word
  -- The bound of a field word has far fewer digits than are written.
  have written : 2 ^ 256 < Text.decimalBound := by
    rw [Text.decimalBound_eq]
    exact Nat.lt_of_lt_of_le (by decide : 2 ^ 256 < 10 ^ 96) (Nat.pow_le_pow_right (by decide) (by decide))
  have small : 1 < Text.decimalBound := Nat.lt_of_lt_of_le (by decide) Text.fieldBound_le_decimalBound
  exact ⟨word, large _ (Nat.le_refl _) written, outside (-1) (Or.inl (by decide)) small⟩

end Word

end ProofWire
