import ProofWire.Proofs.Comparison.Report

/-! Divergence: two contents part where their longest common prefix ends, and a comparison names the digit and the
slot of that place. -/

namespace ProofWire

variable {α : Type}

/-- The longest row with which two rows both begin. -/
structure LongestCommonPrefix (left right common : List α) : Prop where
  beginsLeft : common <+: left
  beginsRight : common <+: right
  longest : ∀ other, other <+: left → other <+: right → other.length ≤ common.length

/-- Rows that do not begin with the same item. -/
def HeadsApart (left right : List α) : Prop :=
  ∀ item, ¬ (left.head? = some item ∧ right.head? = some item)

namespace LongestCommonPrefix

variable {left right common other : List α}

/-- Two rows have only one longest common prefix. -/
theorem unique (first : LongestCommonPrefix left right common) (second : LongestCommonPrefix left right other) :
    common = other := by
  -- Prefixes of one row are told apart by their lengths.
  have shorter := second.longest common first.beginsLeft first.beginsRight
  have longer := first.longest other second.beginsLeft second.beginsRight
  exact (List.prefix_of_prefix_length_le first.beginsLeft second.beginsLeft shorter).eq_of_length
    (Nat.le_antisymm shorter longer)

/-- What two rows hold behind their longest common prefix does not begin alike. -/
theorem exists_rests (longest : LongestCommonPrefix left right common) :
    ∃ leftRest rightRest, left = common ++ leftRest ∧ right = common ++ rightRest ∧ HeadsApart leftRest rightRest := by
  obtain ⟨leftRest, rfl⟩ := longest.beginsLeft
  obtain ⟨rightRest, rfl⟩ := longest.beginsRight
  refine ⟨leftRest, rightRest, rfl, rfl, fun item shared => ?_⟩
  obtain ⟨leftTail, rfl⟩ := List.head?_eq_some_iff.mp shared.1
  obtain ⟨rightTail, rfl⟩ := List.head?_eq_some_iff.mp shared.2
  -- A shared item would make the prefix longer.
  have longer := longest.longest (common ++ [item]) ⟨leftTail, by simp⟩ ⟨rightTail, by simp⟩
  simp at longer

/-- Rows that go on without beginning alike have what is in front of them as their longest common prefix. -/
theorem of_headsApart (common : List α) {leftRest rightRest : List α} (apart : HeadsApart leftRest rightRest) :
    LongestCommonPrefix (common ++ leftRest) (common ++ rightRest) common where
  beginsLeft := List.prefix_append _ _
  beginsRight := List.prefix_append _ _
  longest := by
    intro other ofLeft ofRight
    by_contra longer
    -- A longer prefix goes on with an item of both rests.
    obtain ⟨more, rfl⟩ := List.prefix_of_prefix_length_le (List.prefix_append common leftRest) ofLeft (by omega)
    rw [List.prefix_append_right_inj] at ofLeft ofRight
    cases more with
    | nil => simp at longer
    | cons item tail =>
      obtain ⟨leftTail, rfl⟩ := ofLeft
      obtain ⟨rightTail, rfl⟩ := ofRight
      exact apart item ⟨rfl, rfl⟩

/-- Two rows have a longest common prefix. -/
theorem exists_of (left right : List α) : ∃ common, LongestCommonPrefix left right common := by
  classical
  -- Each item that the rows share goes in front of what their rests share.
  induction left generalizing right with
  | nil => exact ⟨[], of_headsApart [] fun item shared => nomatch shared.1⟩
  | cons first rest ih =>
    cases right with
    | nil => exact ⟨[], of_headsApart [] fun item shared => nomatch shared.2⟩
    | cons second tail =>
      by_cases same : first = second
      · subst same
        obtain ⟨common, found⟩ := ih tail
        obtain ⟨leftRest, rightRest, rfl, rfl, apart⟩ := found.exists_rests
        exact ⟨first :: common, of_headsApart (first :: common) apart⟩
      · refine ⟨[], of_headsApart [] fun item shared => same ?_⟩
        exact Option.some.inj (shared.1.trans shared.2.symm)

/-- There is one longest common prefix of two rows. -/
theorem exists_iff (left right : List α) :
    ∃ common, ∀ other, LongestCommonPrefix left right other ↔ other = common := by
  -- There is one, and two of them have the same length.
  obtain ⟨common, found⟩ := exists_of left right
  refine ⟨common, fun other => ⟨fun longest => longest.unique found, ?_⟩⟩
  rintro rfl
  exact found

/-- Rows have the same longest common prefix in both orders. -/
theorem symm (longest : LongestCommonPrefix left right common) : LongestCommonPrefix right left common :=
  ⟨longest.beginsRight, longest.beginsLeft, fun other ofRight ofLeft => longest.longest other ofLeft ofRight⟩

/-- Rows part where their longest common prefix ends. -/
theorem firstDifference_eq [DecidableEq α] (longest : LongestCommonPrefix left right common) :
    firstDifference left right = if left = right then none else some common.length := by
  obtain ⟨leftRest, rightRest, rfl, rfl, apart⟩ := longest.exists_rests
  simp only [firstDifference_append_left, List.append_cancel_left_eq]
  -- The rests part at once, unless both are empty.
  cases leftRest with
  | nil => cases rightRest <;> simp [firstDifference]
  | cons first leftTail =>
    cases rightRest with
    | nil => simp [firstDifference]
    | cons second rightTail =>
      have differ : first ≠ second := fun same => apart second ⟨congrArg some same, rfl⟩
      simp [firstDifference, differ]

end LongestCommonPrefix

/-- Rows part at the same place in both orders. -/
theorem firstDifference_comm [DecidableEq α] (left right : List α) :
    firstDifference left right = firstDifference right left := by
  obtain ⟨common, longest⟩ := LongestCommonPrefix.exists_of left right
  simp only [longest.firstDifference_eq, longest.symm.firstDifference_eq, eq_comm]

namespace Comparison

/-- What a comparison says of two contents whose longest common prefix ends at a place: different contents part in the
first digit of the byte there, or in its second digit where only that one differs; when one content ends there they
part behind its last digit; and the field is the one that holds the byte of that place. -/
structure Diverges (comparison : Comparison) (ours reference : Bytes) (layout : List Slot) (place : Nat) : Prop where
  sameBytes : comparison.sameBytes = true ↔ ours = reference
  noNibble : comparison.firstNibble = none ↔ ours = reference
  noField : ours = reference → comparison.firstField = none
  within : ∀ left right, ours[place]? = some left → reference[place]? = some right →
    comparison.firstNibble = some (if left.toNat / 16 ≠ right.toNat / 16 then 2 * place else 2 * place + 1)
  atEnd : ours ≠ reference → ours <+: reference ∨ reference <+: ours →
    comparison.firstNibble = some (2 * min ours.length reference.length)
  firstField : ours ≠ reference → comparison.firstField = Layout.locate layout place

variable {ours reference common : Bytes}

/-- The digits of contents that have bytes behind their longest common prefix part in these bytes. -/
theorem firstNibble?_within (longest : LongestCommonPrefix ours reference common) {left right : UInt8}
    (ourByte : ours[common.length]? = some left) (referenceByte : reference[common.length]? = some right) :
    firstNibble? ours reference = some (if left.toNat / 16 ≠ right.toNat / 16 then 2 * common.length
      else 2 * common.length + 1) := by
  obtain ⟨leftRest, rightRest, rfl, rfl, apart⟩ := longest.exists_rests
  rw [List.getElem?_append_right (Nat.le_refl _), Nat.sub_self, ← List.head?_eq_getElem?] at ourByte referenceByte
  obtain ⟨leftTail, rfl⟩ := List.head?_eq_some_iff.mp ourByte
  obtain ⟨rightTail, rfl⟩ := List.head?_eq_some_iff.mp referenceByte
  -- The digits in front are the same, and these bytes do not have both digits in common.
  have differ : left ≠ right := fun same => apart right ⟨congrArg some same, rfl⟩
  rw [firstNibble?_append_left, firstNibble?_cons_of_ne differ, Option.map_some]
  split <;> simp_all

/-- The digits of a content and of a longer one that begins with it part behind the last digit of the shorter one. -/
theorem firstNibble?_of_prefix (begins : ours <+: reference) (differ : ours ≠ reference) :
    firstNibble? ours reference = some (2 * ours.length) := by
  obtain ⟨rest, rfl⟩ := begins
  cases rest with
  | nil => exact absurd (List.append_nil ours).symm differ
  | cons byte tail =>
    -- Behind the shared digits there are none on one side and two on the other.
    have onward := firstNibble?_append_left ours [] (byte :: tail)
    rw [List.append_nil] at onward
    rw [onward, firstNibble?, Text.hexOfBytes_cons]
    rfl

/-- The digits of two contents part at the same place in both orders. -/
theorem firstNibble?_comm (ours reference : Bytes) : firstNibble? ours reference = firstNibble? reference ours :=
  firstDifference_comm _ _

/-- The field of a comparison is the one that holds the byte in which the contents part. -/
theorem firstField_ofContents (ours reference : Bytes) (layout : List Slot) (algorithms : List Algorithm) :
    (ofContents ours reference layout algorithms).firstField =
      (firstDifference ours reference).bind fun place => Layout.locate layout place := by
  -- The byte of a digit has half its number.
  rw [← firstNibble?_half, Option.bind_map]
  rfl

/-- A comparison says where the longest common prefix of the contents ends. -/
theorem diverges_ofContents (longest : LongestCommonPrefix ours reference common) (layout : List Slot)
    (algorithms : List Algorithm) :
    (ofContents ours reference layout algorithms).Diverges ours reference layout common.length where
  sameBytes := beq_iff_eq
  noNibble := by
    rw [ofContents, Option.map_eq_none_iff, firstNibble?_eq_none_iff]
  noField := by
    intro same
    rw [firstField_ofContents, firstDifference_eq_none_iff.mpr same, Option.bind_none]
  within := by
    intro left right ourByte referenceByte
    rw [ofContents, firstNibble?_within longest ourByte referenceByte]
    split <;> rfl
  atEnd := by
    intro differ begins
    -- The shorter content is the one with which the other begins.
    cases begins with
    | inl begins =>
      rw [ofContents, firstNibble?_of_prefix begins differ, Nat.min_eq_left begins.length_le]
      rfl
    | inr begins =>
      rw [ofContents, firstNibble?_comm, firstNibble?_of_prefix begins differ.symm, Nat.min_eq_right begins.length_le]
      rfl
  firstField := by
    intro differ
    rw [firstField_ofContents, longest.firstDifference_eq, if_neg differ, Option.bind_some]

end Comparison

/--
A comparison of any two contents says where they part.

It is made whatever the layout, when the algorithms are known. Two contents have one longest common prefix; the
comparison names the digit and the slot of the place at which that prefix ends, and names the same ones when the
contents are swapped. Rows of any items, texts among them, part where their longest common prefix ends as well.
-/
theorem comparison_locates_divergence (ours reference : Bytes) (layout : List Slot) (names : List Value)
    (known : ∀ named ∈ names, ∃ algorithm, Algorithm.ofValue named = .ok algorithm) :
    (∃ common, (∀ other, LongestCommonPrefix ours reference other ↔ other = common) ∧
      ∃ comparison swapped, Comparison.ofNames ours reference layout names = .ok comparison ∧
        Comparison.ofNames reference ours layout names = .ok swapped ∧
        comparison.Diverges ours reference layout common.length ∧
        swapped.firstNibble = comparison.firstNibble ∧ swapped.firstField = comparison.firstField) ∧
    ∀ (α : Type) [DecidableEq α] (left right : List α),
      ∃ common, (∀ other, LongestCommonPrefix left right other ↔ other = common) ∧
        firstDifference left right = if left = right then none else some common.length := by
  obtain ⟨algorithms, resolved⟩ := exists_mapM_eq_ok known
  refine ⟨?_, fun α _ left right => ?_⟩
  · obtain ⟨common, exact⟩ := LongestCommonPrefix.exists_iff ours reference
    refine ⟨common, exact, _, _, Comparison.ofNames_of_resolved resolved ours reference layout,
      Comparison.ofNames_of_resolved resolved reference ours layout,
      Comparison.diverges_ofContents ((exact common).mpr rfl) layout algorithms, ?_, ?_⟩
    -- Contents part at the same place in both orders.
    · rw [Comparison.ofContents, Comparison.firstNibble?_comm]
      rfl
    · rw [Comparison.firstField_ofContents, Comparison.firstField_ofContents, firstDifference_comm]
  · obtain ⟨common, exact⟩ := LongestCommonPrefix.exists_iff left right
    exact ⟨common, exact, ((exact common).mpr rfl).firstDifference_eq⟩

/-- Contents that part in the low half of their second byte, which lies in the count. -/
theorem comparison_locates_divergence_second_byte :
    (∀ named ∈ [Value.text "sha256", .text "keccak"], ∃ algorithm, Algorithm.ofValue named = .ok algorithm) ∧
      ∃ comparison, Comparison.ofNames [0x12, 0x34] [0x12, 0x35, 0x00] (Layout.publicInputs 0)
          [.text "sha256", .text "keccak"] = .ok comparison ∧
        comparison.firstNibble = some 3 ∧ comparison.firstField = some "count" := by
  have known : ∀ named ∈ [Value.text "sha256", .text "keccak"],
      ∃ algorithm, Algorithm.ofValue named = .ok algorithm := by
    simp only [List.forall_mem_cons, List.not_mem_nil, false_imp_iff, implies_true, and_true]
    exact ⟨⟨.sha256, rfl⟩, ⟨.keccak, rfl⟩⟩
  obtain ⟨⟨common, exact, comparison, swapped, made, _, diverges, _⟩, _⟩ :=
    comparison_locates_divergence [0x12, 0x34] [0x12, 0x35, 0x00] (Layout.publicInputs 0) _ known
  -- The first bytes are the same and the second ones are not.
  have apart : HeadsApart [(0x34 : UInt8)] [0x35, 0x00] := by simp [HeadsApart]
  obtain rfl := (exact _).mp (LongestCommonPrefix.of_headsApart [0x12] apart)
  refine ⟨known, comparison, made, diverges.within 0x34 0x35 rfl rfl, ?_⟩
  rw [diverges.firstField (by decide)]
  decide

end ProofWire
