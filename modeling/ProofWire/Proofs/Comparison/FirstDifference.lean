import ProofWire.Comparison.Basic
import ProofWire.Proofs.Text.Hex

/-! First differences: where two rows part, and that the digits of bytes part where the bytes do. -/

namespace ProofWire

variable {α : Type} [DecidableEq α]

/-- Rows do not part exactly when they are the same. -/
@[simp] theorem firstDifference_eq_none_iff {left right : List α} :
    firstDifference left right = none ↔ left = right := by
  -- Rows that go on after a shared item part where their rests do.
  induction left generalizing right with
  | nil => cases right <;> simp [firstDifference]
  | cons first rest ih =>
    cases right with
    | nil => simp [firstDifference]
    | cons second tail =>
      by_cases same : first = second
      · simp [firstDifference, same, ih]
      · simp [firstDifference, same]

/-- Rows part within the first of them or at its end. -/
theorem firstDifference_le_length {left right : List α} {place : Nat}
    (found : firstDifference left right = some place) : place ≤ left.length := by
  -- Induction on the first row: a shared item moves the place by one, and a row that is over ends it.
  induction left generalizing right place with
  | nil =>
    cases right with
    | nil => cases found
    | cons second tail =>
      cases found
      exact Nat.le_refl _
  | cons first rest ih =>
    cases right with
    | nil =>
      cases found
      exact Nat.zero_le _
    | cons second tail =>
      rw [firstDifference] at found
      split at found
      · obtain ⟨before, later, rfl⟩ := Option.map_eq_some_iff.mp found
        exact Nat.succ_le_succ (ih later)
      · cases found
        exact Nat.zero_le _

/-- Rows that begin alike part where what follows does. -/
theorem firstDifference_append_left (front left right : List α) :
    firstDifference (front ++ left) (front ++ right) = (firstDifference left right).map (front.length + ·) := by
  -- Each shared item moves the place by one.
  induction front with
  | nil => simp
  | cons first rest ih =>
    rw [List.cons_append, List.cons_append, firstDifference, if_pos rfl, ih, Option.map_map, List.length_cons]
    congr 1
    funext place
    simp only [Function.comp_apply]
    omega

/-- Rows whose different fronts are equally long part within the fronts. -/
theorem firstDifference_append_right {left right : List α} (aligned : left.length = right.length)
    (differ : left ≠ right) (leftBack rightBack : List α) :
    ∃ place, place < left.length ∧ firstDifference (left ++ leftBack) (right ++ rightBack) = some place := by
  -- Either the first items differ, or the fronts behind them do.
  induction left generalizing right with
  | nil => exact absurd (List.length_eq_zero_iff.mp aligned.symm).symm differ
  | cons first rest ih =>
    cases right with
    | nil => simp at aligned
    | cons second tail =>
      by_cases same : first = second
      · subst same
        obtain ⟨place, inside, found⟩ := ih (by simpa using aligned) fun equal => differ (by rw [equal])
        exact ⟨place + 1, Nat.succ_lt_succ inside, by simp [firstDifference, found]⟩
      · exact ⟨0, Nat.succ_pos _, by simp [firstDifference, same]⟩

/-- Contents do not differ from themselves. -/
theorem Comparison.firstNibble?_self (content : Bytes) : firstNibble? content content = none :=
  firstDifference_eq_none_iff.mpr rfl

/-- The digits of different bytes part in the first digit, or in the second one where the high halves are the same. -/
theorem Comparison.firstNibble?_cons_of_ne {byte other : UInt8} (differ : byte ≠ other) (rest tail : Bytes) :
    firstNibble? (byte :: rest) (other :: tail) = some (if byte.toNat / 16 = other.toNat / 16 then 1 else 0) := by
  obtain ⟨high, low⟩ := Text.halves_lt byte
  obtain ⟨otherHigh, otherLow⟩ := Text.halves_lt other
  rw [firstNibble?, Text.hexOfBytes_cons, Text.hexOfBytes_cons, firstDifference, firstDifference]
  by_cases sameHigh : byte.toNat / 16 = other.toNat / 16
  · -- Bytes with the same halves would be the same.
    have lowDiffer : Text.hexDigit (byte.toNat % 16) ≠ Text.hexDigit (other.toNat % 16) := by
      intro same
      have remainders := Text.hexDigit_injOn low otherLow same
      exact differ (UInt8.toNat_inj.mp (by omega))
    simp [sameHigh, lowDiffer]
  · have highDiffer : Text.hexDigit (byte.toNat / 16) ≠ Text.hexDigit (other.toNat / 16) := fun same =>
      sameHigh (Text.hexDigit_injOn high otherHigh same)
    simp [sameHigh, highDiffer]

/-- Contents that begin alike have digits that part where those of what follows do. -/
theorem Comparison.firstNibble?_append_left (front ours reference : Bytes) :
    firstNibble? (front ++ ours) (front ++ reference) = (firstNibble? ours reference).map (2 * front.length + ·) := by
  -- There are two digits for each byte.
  rw [firstNibble?, Text.hexOfBytes_append, Text.hexOfBytes_append, firstDifference_append_left, Text.length_hexOfBytes,
    firstNibble?]

/-- The digits of two contents part in the byte in which the contents part. -/
theorem Comparison.firstNibble?_half (ours reference : Bytes) :
    (firstNibble? ours reference).map (· / 2) = firstDifference ours reference := by
  -- Two digits stand for each byte, and they are the same exactly when the bytes are.
  induction ours generalizing reference with
  | nil =>
    cases reference with
    | nil => rfl
    | cons other tail =>
      rw [firstNibble?, Text.hexOfBytes_cons]
      rfl
  | cons byte rest ih =>
    cases reference with
    | nil =>
      rw [firstNibble?, Text.hexOfBytes_cons]
      rfl
    | cons other tail =>
      by_cases same : byte = other
      · subst same
        have onward := firstNibble?_append_left [byte] rest tail
        rw [List.singleton_append, List.singleton_append, List.length_singleton] at onward
        rw [onward, firstDifference, if_pos rfl, ← ih tail, Option.map_map, Option.map_map]
        congr 1
        funext place
        simp only [Function.comp_apply]
        omega
      · rw [firstNibble?_cons_of_ne same, firstDifference, if_neg same]
        split <;> rfl

/-- The digits of two contents part exactly when the contents do. -/
theorem Comparison.firstNibble?_eq_none_iff {ours reference : Bytes} :
    firstNibble? ours reference = none ↔ ours = reference := by
  rw [← firstDifference_eq_none_iff, ← firstNibble?_half, Option.map_eq_none_iff]

end ProofWire
