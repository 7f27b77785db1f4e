import ProofWire.Artifact.Point
import ProofWire.Proofs.Outcome

/-! The numbers that an untyped point stands for, and that the readers of points return exactly those. -/

namespace ProofWire

/-- A scalar is read exactly from a value that denotes its number. -/
theorem Scalar.ofValue_eq_ok_iff {source : Value} {scalar : Scalar} :
    Scalar.ofValue source = .ok scalar ↔ source.natural = .ok scalar.value := by
  -- The range test cannot refuse the number of a scalar.
  rw [Scalar.ofValue, bind_eq_ok_iff]
  constructor
  · rintro ⟨number, read, kept⟩
    split at kept
    · cases kept; exact read
    · cases kept
  · intro read
    exact ⟨scalar.value, read, by simp [scalar.inRange, pure, Except.pure]⟩

/-- A coordinate is read exactly from a value that denotes its number, whatever its label. -/
theorem Coordinate.ofValue_eq_ok_iff {label : String} {source : Value} {coordinate : Coordinate} :
    Coordinate.ofValue label source = .ok coordinate ↔ source.natural = .ok coordinate.value := by
  -- The range test cannot refuse the number of a coordinate.
  rw [Coordinate.ofValue, bind_eq_ok_iff]
  constructor
  · rintro ⟨number, read, kept⟩
    split at kept
    · cases kept; exact located_eq_ok_iff.mp read
    · cases kept
  · intro read
    exact ⟨coordinate.value, located_eq_ok_iff.mpr read,
      by simp [coordinate.inRange, pure, Except.pure]⟩

/-- A number below the modulus is read as the coordinate that it is. -/
theorem Point.coordinate_of_natural {label : Option String} {part : String} {source : Value} {number : Nat}
    (read : source.natural = .ok number) (range : number < baseModulus) :
    Point.coordinate label part source = .ok ⟨number, range⟩ :=
  Coordinate.ofValue_eq_ok_iff.mpr read

/-- The scale of a point is the number that its place denotes. -/
theorem Point.scale_eq_ok_iff {label : Option String} {part : String} {source : Value} {number : Nat} :
    Point.scale label part source = .ok number ↔ source.natural = .ok number :=
  located_eq_ok_iff

/-- The numbers that a value stands for as a G1 point: three items, the last of them zero, where the other two do
not matter, or one. -/
inductive G1.Denotes (source : Value) : G1Words → Prop where
  | infinity {x y z : Value} (items : source.items? = some [x, y, z])
    (scale : z.natural = .ok 0) : G1.Denotes source ⟨0, 0⟩
  | affine {x y z : Value} {a b : Nat} (items : source.items? = some [x, y, z])
    (scale : z.natural = .ok 1)
    (first : x.natural = .ok a) (firstRange : a < baseModulus)
    (second : y.natural = .ok b) (secondRange : b < baseModulus) : G1.Denotes source ⟨a, b⟩

/-- The numbers that a value stands for as a G2 point: three sequences, the last of them zero and zero, where the
other two do not matter, or one and zero. -/
inductive G2.Denotes (source : Value) : G2Words → Prop where
  | infinity {x y z z0 z1 : Value} {xs ys : List Value} (items : source.items? = some [x, y, z])
    (xItems : x.items? = some xs) (yItems : y.items? = some ys) (zItems : z.items? = some [z0, z1])
    (scale0 : z0.natural = .ok 0) (scale1 : z1.natural = .ok 0) : G2.Denotes source ⟨0, 0, 0, 0⟩
  | affine {x y z x0 x1 y0 y1 z0 z1 : Value} {a0 a1 b0 b1 : Nat}
    (items : source.items? = some [x, y, z])
    (xItems : x.items? = some [x0, x1]) (yItems : y.items? = some [y0, y1])
    (zItems : z.items? = some [z0, z1])
    (scale0 : z0.natural = .ok 1) (scale1 : z1.natural = .ok 0)
    (first0 : x0.natural = .ok a0) (first0Range : a0 < baseModulus)
    (first1 : x1.natural = .ok a1) (first1Range : a1 < baseModulus)
    (second0 : y0.natural = .ok b0) (second0Range : b0 < baseModulus)
    (second1 : y1.natural = .ok b1) (second1Range : b1 < baseModulus) :
    G2.Denotes source ⟨a0, a1, b0, b1⟩

/-- A value stands for the number zero. -/
def Value.isZero (source : Value) : Bool :=
  match source.natural with
  | .ok number => number == 0
  | .error _ => false

/-- A value is zero exactly when it is read as zero. -/
theorem Value.isZero_iff {source : Value} : source.isZero = true ↔ source.natural = .ok 0 := by
  cases read : source.natural <;> simp [isZero, read]

/-- A value is the G1 point at infinity: the last of its three items is zero. -/
def G1.isInfinite (source : Value) : Bool :=
  match source.items? with
  | some [_, _, z] => z.isZero
  | _ => false

/-- A value is the G2 point at infinity: of its three sequences the last is a pair of zeros. -/
def G2.isInfinite (source : Value) : Bool :=
  match source.items? with
  | some [x, y, z] =>
    match x.items?, y.items?, z.items? with
    | some _, some _, some [z0, z1] => z0.isZero && z1.isZero
    | _, _, _ => false
  | _ => false

namespace G1

/-- Whatever is read as a point stands for the numbers of that point. -/
theorem denotes_of_ofValue {label : Option String} {source : Value} {point : G1}
    (read : G1.ofValue label source = .ok point) : G1.Denotes source point.words := by
  -- The reader tests the scale before it reads a coordinate.
  simp only [G1.ofValue] at read
  split at read
  case h_1 x y z items =>
    obtain ⟨scale, scaled, rest⟩ := bind_eq_ok_iff.mp read
    have scaled : z.natural = .ok scale := Point.scale_eq_ok_iff.mp scaled
    split at rest
    · rename_i zero
      subst zero
      cases rest
      exact .infinity items scaled
    · split at rest
      · cases rest
      · rename_i one
        have one : scale = 1 := Decidable.not_not.mp one
        subst one
        obtain ⟨first, firstRead, later⟩ := bind_eq_ok_iff.mp rest
        obtain ⟨second, secondRead, done⟩ := bind_eq_ok_iff.mp later
        cases done
        exact .affine items scaled (Coordinate.ofValue_eq_ok_iff.mp firstRead) first.inRange
          (Coordinate.ofValue_eq_ok_iff.mp secondRead) second.inRange
  case h_2 => cases read

/-- Whatever stands for the numbers of a point is read as one. -/
theorem ofValue_of_denotes {source : Value} {words : G1Words} (denoted : G1.Denotes source words)
    (label : Option String) : ∃ point, G1.ofValue label source = .ok point ∧ point.words = words := by
  -- Each clause fixes every test that the reader makes.
  cases denoted with
  | infinity items scale =>
    refine ⟨.infinity, ?_, rfl⟩
    simp only [G1.ofValue, items, Point.scale_eq_ok_iff.mpr scale]
    rfl
  | affine items scale first firstRange second secondRange =>
    refine ⟨.affine ⟨_, firstRange⟩ ⟨_, secondRange⟩, ?_, rfl⟩
    simp only [G1.ofValue, items, Point.scale_eq_ok_iff.mpr scale,
      Point.coordinate_of_natural first firstRange, Point.coordinate_of_natural second secondRange]
    rfl

/-- Reporting infinity leaves what is read as it is. -/
@[simp] theorem result_read (label : Option String) (source : Value) :
    (G1.read label source).result = G1.ofValue label source := by
  cases ended : G1.ofValue label source <;> simp [G1.read, ended]

/-- The point at infinity is read exactly from values that are at infinity. -/
theorem ofValue_eq_infinity_iff (label : Option String) (source : Value) :
    G1.ofValue label source = .ok .infinity ↔ G1.isInfinite source = true := by
  -- A point with coordinates is read only when the scale is one.
  unfold G1.ofValue
  split
  · rename_i x y z items
    simp only [isInfinite, items, Value.isZero_iff, bind_eq_ok_iff]
    constructor
    · intro ⟨scale, scaled, rest⟩
      split at rest
      · rename_i zero
        subst zero
        exact Point.scale_eq_ok_iff.mp scaled
      · split at rest
        · cases rest
        · obtain ⟨_, _, later⟩ := bind_eq_ok_iff.mp rest
          obtain ⟨_, _, done⟩ := bind_eq_ok_iff.mp later
          cases done
    · intro zero
      exact ⟨0, Point.scale_eq_ok_iff.mpr zero, rfl⟩
  · simp [isInfinite]

/-- Reading a value reports its infinity and nothing else. -/
theorem events_read (label : Option String) (source : Value) :
    (G1.read label source).events =
      if G1.isInfinite source then [Point.infinityEvent label "encode_g1"] else [] := by
  -- A value is read as infinity exactly where it is infinite.
  have infinite := ofValue_eq_infinity_iff label source
  unfold G1.read
  split
  · rename_i point read
    rw [read] at infinite
    cases point with
    | infinity => rw [if_pos (infinite.mp rfl), events]
    | affine x y => rw [if_neg (by simp [← infinite]), events]
  · rename_i failure failed
    rw [if_neg (by simp [← infinite, failed])]

end G1

namespace G2

/-- Whatever is read as a point stands for the numbers of that point. -/
theorem denotes_of_ofValue {label : Option String} {source : Value} {point : G2}
    (read : G2.ofValue label source = .ok point) : G2.Denotes source point.words := by
  -- The scale comes first, then the lengths of the other two pairs, and their numbers last.
  simp only [G2.ofValue] at read
  split at read
  case h_1 x y z items =>
    split at read
    case h_1 xs ys z0 z1 xItems yItems zItems =>
      obtain ⟨scale0, scaled0, later⟩ := bind_eq_ok_iff.mp read
      obtain ⟨scale1, scaled1, rest⟩ := bind_eq_ok_iff.mp later
      have scaled0 : z0.natural = .ok scale0 := Point.scale_eq_ok_iff.mp scaled0
      have scaled1 : z1.natural = .ok scale1 := Point.scale_eq_ok_iff.mp scaled1
      split at rest
      · rename_i zero
        obtain ⟨rfl, rfl⟩ := zero
        cases rest
        exact .infinity items xItems yItems zItems scaled0 scaled1
      · split at rest
        · cases rest
        · rename_i one
          obtain ⟨rfl, rfl⟩ : scale0 = 1 ∧ scale1 = 0 := by omega
          split at rest
          · obtain ⟨first0, first0Read, later⟩ := bind_eq_ok_iff.mp rest
            obtain ⟨first1, first1Read, later⟩ := bind_eq_ok_iff.mp later
            obtain ⟨second0, second0Read, later⟩ := bind_eq_ok_iff.mp later
            obtain ⟨second1, second1Read, done⟩ := bind_eq_ok_iff.mp later
            cases done
            exact .affine items xItems yItems zItems scaled0 scaled1
              (Coordinate.ofValue_eq_ok_iff.mp first0Read) first0.inRange
              (Coordinate.ofValue_eq_ok_iff.mp first1Read) first1.inRange
              (Coordinate.ofValue_eq_ok_iff.mp second0Read) second0.inRange
              (Coordinate.ofValue_eq_ok_iff.mp second1Read) second1.inRange
          · cases rest
    case h_2 => cases read
    case h_3 => cases read
  case h_2 => cases read

/-- Whatever stands for the numbers of a point is read as one. -/
theorem ofValue_of_denotes {source : Value} {words : G2Words} (denoted : G2.Denotes source words)
    (label : Option String) : ∃ point, G2.ofValue label source = .ok point ∧ point.words = words := by
  -- Each clause fixes every test that the reader makes.
  cases denoted with
  | infinity items xItems yItems zItems scale0 scale1 =>
    refine ⟨.infinity, ?_, rfl⟩
    simp only [G2.ofValue, items, xItems, yItems, zItems, Point.scale_eq_ok_iff.mpr scale0,
      Point.scale_eq_ok_iff.mpr scale1]
    rfl
  | affine items xItems yItems zItems scale0 scale1 first0 first0Range first1 first1Range
      second0 second0Range second1 second1Range =>
    refine ⟨.affine ⟨_, first0Range⟩ ⟨_, first1Range⟩ ⟨_, second0Range⟩ ⟨_, second1Range⟩, ?_, rfl⟩
    simp only [G2.ofValue, items, xItems, yItems, zItems, Point.scale_eq_ok_iff.mpr scale0,
      Point.scale_eq_ok_iff.mpr scale1, Point.coordinate_of_natural first0 first0Range,
      Point.coordinate_of_natural first1 first1Range, Point.coordinate_of_natural second0 second0Range,
      Point.coordinate_of_natural second1 second1Range]
    rfl

/-- Reporting infinity leaves what is read as it is. -/
@[simp] theorem result_read (label : Option String) (source : Value) :
    (G2.read label source).result = G2.ofValue label source := by
  cases ended : G2.ofValue label source <;> simp [G2.read, ended]

/-- The point at infinity is read exactly from values that are at infinity. -/
theorem ofValue_eq_infinity_iff (label : Option String) (source : Value) :
    G2.ofValue label source = .ok .infinity ↔ G2.isInfinite source = true := by
  -- A point with coordinates is read only when the scale is one and zero.
  unfold G2.ofValue
  split
  · rename_i x y z items
    simp only [isInfinite, items]
    split
    · rename_i xs ys z0 z1 xItems yItems zItems
      simp only [xItems, yItems, zItems, Bool.and_eq_true, Value.isZero_iff, bind_eq_ok_iff]
      constructor
      · intro ⟨scale0, scaled0, scale1, scaled1, rest⟩
        split at rest
        · rename_i zero
          obtain ⟨rfl, rfl⟩ := zero
          exact ⟨Point.scale_eq_ok_iff.mp scaled0, Point.scale_eq_ok_iff.mp scaled1⟩
        · split at rest
          · cases rest
          · split at rest
            · obtain ⟨_, _, later⟩ := bind_eq_ok_iff.mp rest
              obtain ⟨_, _, later⟩ := bind_eq_ok_iff.mp later
              obtain ⟨_, _, later⟩ := bind_eq_ok_iff.mp later
              obtain ⟨_, _, done⟩ := bind_eq_ok_iff.mp later
              cases done
            · cases rest
      · intro ⟨zero0, zero1⟩
        exact ⟨0, Point.scale_eq_ok_iff.mpr zero0, 0, Point.scale_eq_ok_iff.mpr zero1, rfl⟩
    · rename_i third noPair xItems yItems zItems
      simp only [xItems, yItems, zItems]
      split
      · rename_i z0 z1 _ _ same
        exact absurd (Option.some.inj same) (noPair z0 z1)
      · simp
    · simp
  · simp [isInfinite]

/-- Reading a value reports its infinity and nothing else. -/
theorem events_read (label : Option String) (source : Value) :
    (G2.read label source).events =
      if G2.isInfinite source then [Point.infinityEvent label "encode_g2"] else [] := by
  -- A value is read as infinity exactly where it is infinite.
  have infinite := ofValue_eq_infinity_iff label source
  unfold G2.read
  split
  · rename_i point read
    rw [read] at infinite
    cases point with
    | infinity => rw [if_pos (infinite.mp rfl), events]
    | affine x0 x1 y0 y1 => rw [if_neg (by simp [← infinite]), events]
  · rename_i failure failed
    rw [if_neg (by simp [← infinite, failed])]

end G2

end ProofWire
