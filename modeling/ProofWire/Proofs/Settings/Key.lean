import ProofWire.Proofs.Binary64.Exact
import ProofWire.Settings.Section

/-! Keys of sections: what a key names, and that an entry is found under each key that names the same. -/

namespace ProofWire

/-- What keys name: numbers of whatever type by their value, and the doubles without one by their bits. -/
inductive KeyName where
  | text (text : String)
  | null
  | number (number : ℚ)
  | special (bits : UInt64)

namespace Value

/-- A value names something when it is used as a key. -/
inductive Names : Value → KeyName → Prop where
  | text (text : String) : Names (.text text) (.text text)
  | null : Names .null .null
  | bool (flag : Bool) : Names (.bool flag) (.number (if flag then 1 else 0))
  | int (number : Int) : Names (.int number) (.number number)
  | finite {number : Binary64} (finite : number.isFinite = true) : Names (.float number) (.number number.toRat)
  | special {number : Binary64} (infinite : number.isFinite = false) : Names (.float number) (.special number.bits)

/-- Two keys name the same. -/
def NamesSame (left right : Value) : Prop :=
  ∃ name, left.Names name ∧ right.Names name

/-- A key does not name two things. -/
theorem Names.unique {key : Value} {first second : KeyName} (left : key.Names first) (right : key.Names second) :
    first = second := by
  -- Only doubles have two kinds of names, and whether they are finite decides between them.
  cases left <;> cases right
  case finite.special finite infinite => cases finite.symm.trans infinite
  case special.finite infinite finite => cases finite.symm.trans infinite
  all_goals rfl

/-- Whether two keys name the same does not depend on their order. -/
theorem NamesSame.symm {left right : Value} (same : left.NamesSame right) : right.NamesSame left := by
  obtain ⟨name, leftName, rightName⟩ := same
  exact ⟨name, rightName, leftName⟩

/-- Keys that name the same as a third one name the same. -/
theorem NamesSame.trans {left middle right : Value} (first : left.NamesSame middle) (second : middle.NamesSame right) :
    left.NamesSame right := by
  -- The middle key has one name only.
  obtain ⟨name, leftName, middleName⟩ := first
  obtain ⟨other, otherName, rightName⟩ := second
  exact ⟨name, leftName, middleName.unique otherName ▸ rightName⟩

/-- The fraction of a key is a proper one, and the key names its value. -/
theorem names_of_fraction? {key : Value} {fraction : Int × Nat} (given : key.fraction? = some fraction) :
    0 < fraction.2 ∧ key.Names (.number (fraction.1 / fraction.2)) := by
  -- Whole numbers have the denominator one, and doubles have the one of their magnitude.
  unfold fraction? at given
  split at given
  · rename_i flag
    cases given
    have whole : (((if flag then 1 else 0 : Int) : ℚ) / (1 : Nat)) = if flag then 1 else 0 := by cases flag <;> simp
    exact ⟨Nat.one_pos, whole ▸ .bool flag⟩
  · rename_i number
    cases given
    exact ⟨Nat.one_pos, by simpa using Names.int number⟩
  · rename_i x
    split at given
    · rename_i finite
      cases given
      have whole : (x.signed x.magnitude.1 : ℚ) / x.magnitude.2 = x.toRat := by
        rw [Binary64.signed_eq, mul_div_assoc, Binary64.magnitude_eq, Binary64.toRat_eq]
      exact ⟨x.magnitude_pos, whole ▸ .finite finite⟩
    · cases given
  · cases given

/-- A key that names a number has a fraction of that value. -/
theorem Names.exists_fraction? {key : Value} {number : ℚ} (names : key.Names (.number number)) :
    ∃ fraction, key.fraction? = some fraction ∧ 0 < fraction.2 ∧ (fraction.1 : ℚ) / fraction.2 = number := by
  -- Truth values and integers are fractions over one, and so is every finite double a fraction.
  obtain ⟨fraction, given⟩ : ∃ fraction, key.fraction? = some fraction := by
    cases names with
    | bool flag => exact ⟨_, rfl⟩
    | int number => exact ⟨_, rfl⟩
    | finite finite => exact ⟨_, by rw [fraction?, if_pos finite]⟩
  obtain ⟨positive, named⟩ := names_of_fraction? given
  exact ⟨fraction, given, positive, KeyName.number.inj (named.unique names)⟩

/-- A double without a fraction is not finite, and names its bits. -/
theorem names_of_float {number : Binary64} (fractionless : (Value.float number).fraction? = none) :
    (Value.float number).Names (.special number.bits) := by
  -- A finite double would have a fraction.
  cases finite : number.isFinite with
  | true =>
    rw [fraction?, if_pos finite] at fractionless
    cases fractionless
  | false => exact .special finite

/-- Proper fractions are equal when their cross products are. -/
theorem cross_eq_iff {left right : Int × Nat} (leftPositive : 0 < left.2) (rightPositive : 0 < right.2) :
    left.1 * right.2 = right.1 * left.2 ↔ (left.1 : ℚ) / left.2 = right.1 / right.2 := by
  -- Both denominators are positive.
  have leftNonzero : (left.2 : ℚ) ≠ 0 := by exact_mod_cast leftPositive.ne'
  have rightNonzero : (right.2 : ℚ) ≠ 0 := by exact_mod_cast rightPositive.ne'
  rw [div_eq_div_iff leftNonzero rightNonzero]
  norm_cast

/-- The test of keys tells whether they name the same. -/
theorem isSameKey_iff {left right : Value} : left.isSameKey right = true ↔ left.NamesSame right := by
  -- Numbers are compared as fractions, and what has no fraction as it is.
  constructor
  · intro same
    unfold isSameKey at same
    split at same
    · rw [beq_iff_eq.mp same]
      exact ⟨_, .text _, .text _⟩
    · exact ⟨_, .null, .null⟩
    · split at same
      · rename_i leftFraction rightFraction leftGiven rightGiven
        obtain ⟨leftPositive, leftName⟩ := names_of_fraction? leftGiven
        obtain ⟨rightPositive, rightName⟩ := names_of_fraction? rightGiven
        rw [(cross_eq_iff leftPositive rightPositive).mp (beq_iff_eq.mp same)] at leftName
        exact ⟨_, leftName, rightName⟩
      · rename_i leftless rightless
        split at same
        · have rightName := names_of_float rightless
          rw [← beq_iff_eq.mp same] at rightName
          exact ⟨_, names_of_float leftless, rightName⟩
        · cases same
      · cases same
  · rintro ⟨name, leftName, rightName⟩
    cases name with
    | text text =>
      cases leftName
      cases rightName
      exact beq_self_eq_true text
    | null =>
      cases leftName
      cases rightName
      rfl
    | number number =>
      obtain ⟨leftFraction, leftGiven, leftPositive, leftValue⟩ := leftName.exists_fraction?
      obtain ⟨rightFraction, rightGiven, rightPositive, rightValue⟩ := rightName.exists_fraction?
      unfold isSameKey
      split
      · cases leftGiven
      · rfl
      · rw [leftGiven, rightGiven]
        exact beq_iff_eq.mpr ((cross_eq_iff leftPositive rightPositive).mpr (leftValue.trans rightValue.symm))
    | special bits =>
      cases leftName with
      | special leftInfinite =>
        generalize shared : KeyName.special _ = name at rightName
        cases rightName with
        | special rightInfinite =>
          unfold isSameKey
          simp only [fraction?, leftInfinite, rightInfinite]
          exact beq_iff_eq.mpr (KeyName.special.inj shared)
        | _ => cases shared

end Value

end ProofWire
