import ProofWire.Proofs.Artifact.ProofRoundTrip
import ProofWire.Proofs.Artifact.Steps
import ProofWire.Proofs.Literal.Cause

/-! What is wrong with a point when it is refused as one: its checks in order, each behind those that passed. -/

namespace ProofWire

/-- A raised failure that is a fault has the kind and the context of its cause. -/
theorem Cause.eq_of_raise {cause : Cause} {kind : FaultKind} {message : String} {context : Context}
    (raised : cause.raise = .classified ⟨kind, message, context⟩) : kind = cause.kind ∧ context = cause.context := by
  -- A cause without a message raises no fault at all.
  rcases cause.raise_cases with ⟨_, faulty⟩ | ⟨unwritten, _⟩
  · rw [faulty] at raised
    cases raised
    exact ⟨rfl, rfl⟩
  · rw [unwritten] at raised
    cases raised

namespace Point

/-- The kinds of faults by which a value is refused as a point, those of the literals within it aside. -/
def faultKinds : List FaultKind :=
  [.category .nonAffine, .coordinateOutOfRange, .malformedExtensionField, .invalidPointFormat]

/-- No fault of a literal is of such a kind. -/
theorem not_mem_faultKinds_of_literal {kind : FaultKind} (literal : kind ∈ Literal.faultKinds) :
    kind ∉ faultKinds := by
  -- The two lists of kinds have no member in common.
  revert kind
  decide

/-- A scale fails as a literal, whatever the point is. -/
theorem kind_of_scale {label : Option String} {part : String} {source : Value} {fault : Fault}
    (failed : scale label part source = .error (.classified fault)) : fault.kind ∉ faultKinds := by
  -- The label that is mentioned leaves the kind as it is.
  obtain ⟨own, unread, same⟩ := located_eq_error_iff.mp failed
  obtain ⟨cause, refuses, kind⟩ := (Value.raised_natural unread).kind_of_mention same.symm
  rw [kind]
  exact not_mem_faultKinds_of_literal refuses.kind_mem

/-- A coordinate fails as a literal, or for a number that is too large, under the label of its place. -/
theorem tooLarge_of_coordinate {label : Option String} {part : String} {source : Value} {kind : FaultKind}
    {message : String} {context : Context} (member : kind ∈ faultKinds)
    (failed : coordinate label part source = .error (.classified ⟨kind, message, context⟩)) :
    ∃ number, source.natural = .ok number ∧ baseModulus ≤ number ∧ kind = .coordinateOutOfRange ∧
      context = (Fault.outOfRange (partLabel label part) number).context := by
  rcases bind_eq_error_iff.mp failed with refused | ⟨number, read, refused⟩
  · -- A place where nothing is read fails as a scale does.
    have unscaled : scale label part source = .error (.classified ⟨kind, message, context⟩) := refused
    exact absurd member (kind_of_scale unscaled)
  · split at refused
    · cases refused
    · rename_i outside
      obtain ⟨rfl, rfl⟩ := Cause.eq_of_raise (Except.error.inj refused)
      exact ⟨number, located_eq_ok_iff.mp read, Nat.not_lt.mp outside, rfl, rfl⟩

/-- A writable number that is too large is refused as a coordinate, with the number and the label of its place. -/
theorem coordinate_of_tooLarge {label : Option String} {part : String} {source : Value} {number : Nat}
    (writable : source.Writable) (read : source.natural = .ok number) (large : baseModulus ≤ number) :
    coordinate label part source = .error (.classified (Fault.outOfRange (partLabel label part) number)) := by
  -- The number has a text, so the message can be worded.
  rw [← Cause.raise_coordinateOutOfRange _ (writable.natural_lt read), coordinate, Coordinate.ofValue, read]
  simp only [located, Bind.bind, Except.bind, Nat.not_lt.mpr large, dite_false]

/-- Coordinates in their places, read in order. -/
def readAll (label : Option String) : List (String × Value) → Except Failure Unit
  | [] => .ok ()
  | (part, source) :: rest => coordinate label part source >>= fun _ => readAll label rest

/-- In a row of places there is a number that is too large, and before it nothing but numbers that are not. -/
inductive FirstTooLarge : List (String × Value) → String → Nat → Prop where
  | here {part : String} {source : Value} {number : Nat} {rest : List (String × Value)}
    (read : source.natural = .ok number) (large : baseModulus ≤ number) :
    FirstTooLarge ((part, source) :: rest) part number
  | later {part name : String} {source : Value} {small number : Nat} {rest : List (String × Value)}
    (read : source.natural = .ok small) (range : small < baseModulus) (behind : FirstTooLarge rest name number) :
    FirstTooLarge ((part, source) :: rest) name number

/-- Places that are refused other than for their literals hold a number that is too large, and the first one counts. -/
theorem firstTooLarge_of_readAll {label : Option String} {places : List (String × Value)} {kind : FaultKind}
    {message : String} {context : Context} (member : kind ∈ faultKinds)
    (failed : readAll label places = .error (.classified ⟨kind, message, context⟩)) :
    ∃ part number, FirstTooLarge places part number ∧ kind = .coordinateOutOfRange ∧
      context = (Fault.outOfRange (partLabel label part) number).context := by
  -- Either the first place is the one, or it is read as a coordinate and the rest decides.
  induction places with
  | nil => cases failed
  | cons place rest ih =>
    obtain ⟨part, source⟩ := place
    rcases bind_eq_error_iff.mp failed with refused | ⟨small, passed, later⟩
    · obtain ⟨number, read, large, same⟩ := tooLarge_of_coordinate member refused
      exact ⟨part, number, .here read large, same⟩
    · obtain ⟨name, number, behind, same⟩ := ih later
      exact ⟨name, number, .later (Coordinate.ofValue_eq_ok_iff.mp passed) small.inRange behind, same⟩

/-- The first number that is too large is refused, whatever stands behind it. -/
theorem FirstTooLarge.readAll_eq {places : List (String × Value)} {part : String} {number : Nat}
    (first : FirstTooLarge places part number) (label : Option String) (writable : ∀ place ∈ places, place.2.Writable) :
    readAll label places = .error (.classified (Fault.outOfRange (partLabel label part) number)) := by
  -- The numbers before it pass.
  induction first with
  | here read large =>
    have within := writable _ List.mem_cons_self
    rw [readAll, coordinate_of_tooLarge within read large]
    rfl
  | later read range behind ih =>
    rw [readAll, coordinate_of_natural read range]
    exact ih fun place member => writable place (List.mem_cons_of_mem _ member)

end Point

/--
How a value is refused as a G1 point, with the kind of the fault and its context.

It is not three items, its scale is neither zero nor one, or its scale is one and a coordinate is the first that is too
large.
-/
inductive G1.Faulty (label : String) (source : Value) : FaultKind → Context → Prop where
  | format (formless : ∀ x y z, source.items? ≠ some [x, y, z]) :
    Faulty label source .invalidPointFormat [("label", .text label), ("shape", .text source.shape)]
  | nonAffine {x y z : Value} {scale : Nat} (items : source.items? = some [x, y, z])
    (scaled : z.natural = .ok scale) (finite : scale ≠ 0) (projective : scale ≠ 1) :
    Faulty label source (.category .nonAffine) [("label", .text label), ("value", .int scale)]
  | tooLarge {x y z : Value} {part : String} {number : Nat} (items : source.items? = some [x, y, z])
    (scaled : z.natural = .ok 1) (first : Point.FirstTooLarge [("x", x), ("y", y)] part number) :
    Faulty label source .coordinateOutOfRange
      [("label", .text (label ++ "." ++ part)), ("value", .int number), ("modulus", .int baseModulus)]

/-- A value is three sequences of these items. -/
inductive G2.Rows (source : Value) (xs ys zs : List Value) : Prop where
  | intro {x y z : Value} (items : source.items? = some [x, y, z])
    (xItems : x.items? = some xs) (yItems : y.items? = some ys) (zItems : z.items? = some zs) :
    Rows source xs ys zs

/--
How a value is refused as a G2 point, with the kind of the fault and its context.

It is not three items, or these are not sequences; its scale is no pair, or a pair of numbers other than those of an
affine point or of infinity; or the scale is that of an affine point, and another row is no pair or a coordinate is the
first that is too large, in their natural order.
-/
inductive G2.Faulty (label : String) (source : Value) : FaultKind → Context → Prop where
  | format (formless : ∀ x y z, source.items? ≠ some [x, y, z]) :
    Faulty label source .invalidPointFormat [("label", .text label), ("shape", .text source.shape)]
  | flat {x y z : Value} (items : source.items? = some [x, y, z])
    (single : x.items? = none ∨ y.items? = none ∨ z.items? = none) :
    Faulty label source .invalidPointFormat [("label", .text label)]
  | scaleLength {xs ys zs : List Value} (rows : G2.Rows source xs ys zs) (unpaired : zs.length ≠ 2) :
    Faulty label source .malformedExtensionField [("label", .text label)]
  | nonAffine {xs ys : List Value} {z0 z1 : Value} {scale0 scale1 : Nat} (rows : G2.Rows source xs ys [z0, z1])
    (scaled0 : z0.natural = .ok scale0) (scaled1 : z1.natural = .ok scale1)
    (finite : (scale0, scale1) ≠ (0, 0)) (projective : (scale0, scale1) ≠ (1, 0)) :
    Faulty label source (.category .nonAffine)
      [("label", .text label), ("value", .tuple [.int scale0, .int scale1])]
  | lengths {xs ys : List Value} {z0 z1 : Value} (rows : G2.Rows source xs ys [z0, z1])
    (scaled0 : z0.natural = .ok 1) (scaled1 : z1.natural = .ok 0) (unpaired : xs.length ≠ 2 ∨ ys.length ≠ 2) :
    Faulty label source .malformedExtensionField [("label", .text label)]
  | tooLarge {x0 x1 y0 y1 z0 z1 : Value} {part : String} {number : Nat}
    (rows : G2.Rows source [x0, x1] [y0, y1] [z0, z1])
    (scaled0 : z0.natural = .ok 1) (scaled1 : z1.natural = .ok 0)
    (first : Point.FirstTooLarge [("x0", x0), ("x1", x1), ("y0", y0), ("y1", y1)] part number) :
    Faulty label source .coordinateOutOfRange
      [("label", .text (label ++ "." ++ part)), ("value", .int number), ("modulus", .int baseModulus)]

namespace G1

/-- A value whose scale is one is read as its coordinates are. -/
theorem ended_ofValue {label : Option String} {source x y z : Value} (items : source.items? = some [x, y, z])
    (scaled : z.natural = .ok 1) :
    ended (G1.ofValue label source) = Point.readAll label [("x", x), ("y", y)] := by
  simp only [G1.ofValue, items, Point.scale_eq_ok_iff.mpr scaled, Point.readAll]
  -- The first coordinate that is none ends both sides.
  cases Point.coordinate label "x" x with
  | error failure => rfl
  | ok first => cases Point.coordinate label "y" y <;> rfl

/-- A value that is refused by a fault of points is faulty in that way. -/
theorem faulty_of_ofValue {label : String} {source : Value} {kind : FaultKind} {message : String} {context : Context}
    (member : kind ∈ Point.faultKinds)
    (failed : G1.ofValue (some label) source = .error (.classified ⟨kind, message, context⟩)) :
    G1.Faulty label source kind context := by
  -- The checks of the reader are opened in order, and the failure itself is kept for the coordinates.
  have unopened := failed
  unfold G1.ofValue at unopened
  split at unopened
  case h_1 x y z items =>
    rcases bind_eq_error_iff.mp unopened with refused | ⟨scale, scaled, later⟩
    · exact absurd member (Point.kind_of_scale refused)
    · have scaled := Point.scale_eq_ok_iff.mp scaled
      split at later
      · cases later
      · rename_i finite
        split at later
        · rename_i projective
          obtain ⟨rfl, rfl⟩ := Cause.eq_of_raise (Except.error.inj later)
          exact .nonAffine items scaled finite projective
        · rename_i affine
          obtain rfl : scale = 1 := Decidable.not_not.mp affine
          -- Behind the scale there are only the coordinates.
          have unread := ended_eq_error_iff.mpr failed
          rw [ended_ofValue items scaled] at unread
          obtain ⟨part, number, first, rfl, rfl⟩ := Point.firstTooLarge_of_readAll member unread
          exact .tooLarge items scaled first
  case h_2 formless =>
    obtain ⟨rfl, rfl⟩ := Cause.eq_of_raise (Except.error.inj unopened)
    exact .format formless

/-- A writable value that is faulty is refused by that fault. -/
theorem Faulty.ofValue_eq {label : String} {source : Value} {kind : FaultKind} {context : Context}
    (faulty : G1.Faulty label source kind context) (writable : source.Writable) :
    ∃ message, G1.ofValue (some label) source = .error (.classified ⟨kind, message, context⟩) := by
  -- Each fault fixes every check that comes before it.
  cases faulty with
  | format formless =>
    unfold G1.ofValue
    split
    · rename_i items
      exact absurd items (formless _ _ _)
    · exact ⟨_, rfl⟩
  | @nonAffine x y z scale items scaled finite projective =>
    have within : z.Writable := writable.item items (by simp)
    have worded : (Cause.nonAffineG1 (some label) scale).message? = some s!"non-affine G1 point (z={scale})" := by
      simp only [Cause.message?, Text.decimal?_natCast (within.natural_lt scaled)]
      rfl
    refine ⟨s!"non-affine G1 point (z={scale})", ?_⟩
    simp only [G1.ofValue, items, Point.scale_eq_ok_iff.mpr scaled, Bind.bind, Except.bind, if_neg finite,
      if_pos projective, Cause.raise_eq_classified _ worded]
    rfl
  | @tooLarge x y z part number items scaled first =>
    have xWithin : x.Writable := writable.item items (by simp)
    have yWithin : y.Writable := writable.item items (by simp)
    have each : ∀ place ∈ [("x", x), ("y", y)], place.2.Writable :=
      List.forall_mem_cons.mpr ⟨xWithin, List.forall_mem_singleton.mpr yWithin⟩
    have unread := first.readAll_eq (some label) each
    rw [← ended_ofValue items scaled] at unread
    exact ⟨_, ended_eq_error_iff.mp unread⟩

end G1

namespace G2

/-- A value whose scale is that of an affine point is read as its coordinates are. -/
theorem ended_ofValue {label : Option String} {source x0 x1 y0 y1 z0 z1 : Value}
    (rows : Rows source [x0, x1] [y0, y1] [z0, z1]) (scaled0 : z0.natural = .ok 1) (scaled1 : z1.natural = .ok 0) :
    ended (G2.ofValue label source) =
      Point.readAll label [("x0", x0), ("x1", x1), ("y0", y0), ("y1", y1)] := by
  obtain ⟨items, xItems, yItems, zItems⟩ := rows
  simp only [G2.ofValue, items, xItems, yItems, zItems, Point.scale_eq_ok_iff.mpr scaled0,
    Point.scale_eq_ok_iff.mpr scaled1, Point.readAll]
  -- The first coordinate that is none ends both sides.
  cases Point.coordinate label "x0" x0 with
  | error failure => rfl
  | ok first0 =>
    cases Point.coordinate label "x1" x1 with
    | error failure => rfl
    | ok first1 =>
      cases Point.coordinate label "y0" y0 with
      | error failure => rfl
      | ok second0 => cases Point.coordinate label "y1" y1 <;> rfl

/-- A value that is refused by a fault of points is faulty in that way. -/
theorem faulty_of_ofValue {label : String} {source : Value} {kind : FaultKind} {message : String} {context : Context}
    (member : kind ∈ Point.faultKinds)
    (failed : G2.ofValue (some label) source = .error (.classified ⟨kind, message, context⟩)) :
    G2.Faulty label source kind context := by
  -- The checks of the reader are opened in order, and the failure itself is kept for the coordinates.
  have unopened := failed
  unfold G2.ofValue at unopened
  split at unopened
  case h_1 x y z items =>
    split at unopened
    case h_1 xs ys z0 z1 xItems yItems zItems =>
      have rows : Rows source xs ys [z0, z1] := .intro items xItems yItems zItems
      rcases bind_eq_error_iff.mp unopened with refused | ⟨scale0, scaled0, rest⟩
      · exact absurd member (Point.kind_of_scale refused)
      rcases bind_eq_error_iff.mp rest with refused | ⟨scale1, scaled1, later⟩
      · exact absurd member (Point.kind_of_scale refused)
      have scaled0 := Point.scale_eq_ok_iff.mp scaled0
      have scaled1 := Point.scale_eq_ok_iff.mp scaled1
      split at later
      · cases later
      · rename_i finite
        split at later
        · rename_i projective
          obtain ⟨rfl, rfl⟩ := Cause.eq_of_raise (Except.error.inj later)
          refine .nonAffine rows scaled0 scaled1 ?_ ?_
          · simpa using finite
          · simp only [ne_eq, Prod.mk.injEq]
            omega
        · -- Neither infinity nor another scale is left, so this is the one of an affine point.
          obtain ⟨rfl, rfl⟩ : scale0 = 1 ∧ scale1 = 0 := by omega
          split at later
          · -- Behind the lengths there are only the coordinates.
            have unread := ended_eq_error_iff.mpr failed
            rw [ended_ofValue rows scaled0 scaled1] at unread
            obtain ⟨part, number, first, rfl, rfl⟩ := Point.firstTooLarge_of_readAll member unread
            exact .tooLarge rows scaled0 scaled1 first
          · rename_i unpaired
            obtain ⟨rfl, rfl⟩ := Cause.eq_of_raise (Except.error.inj later)
            refine .lengths rows scaled0 scaled1 (Classical.not_and_iff_not_or_not.mp ?_)
            -- Two pairs would have passed.
            rintro ⟨two, other⟩
            obtain ⟨x0, x1, rfl⟩ := List.length_eq_two.mp two
            obtain ⟨y0, y1, rfl⟩ := List.length_eq_two.mp other
            exact unpaired x0 x1 y0 y1 rfl rfl
    case h_2 xs ys zs unpaired xItems yItems zItems =>
      obtain ⟨rfl, rfl⟩ := Cause.eq_of_raise (Except.error.inj unopened)
      refine .scaleLength (.intro items xItems yItems zItems) fun two => ?_
      obtain ⟨z0, z1, rfl⟩ := List.length_eq_two.mp two
      exact unpaired z0 z1 rfl
    case h_3 paired rows =>
      obtain ⟨rfl, rfl⟩ := Cause.eq_of_raise (Except.error.inj unopened)
      refine .flat items ?_
      -- Three sequences would be rows.
      cases xItems : x.items? with
      | none => exact .inl rfl
      | some xs =>
        cases yItems : y.items? with
        | none => exact .inr (.inl rfl)
        | some ys =>
          cases zItems : z.items? with
          | none => exact .inr (.inr rfl)
          | some zs => exact (rows xs ys zs xItems yItems zItems).elim
  case h_2 formless =>
    obtain ⟨rfl, rfl⟩ := Cause.eq_of_raise (Except.error.inj unopened)
    exact .format formless

/-- The coordinates of a writable value are writable. -/
theorem Rows.writable_coordinates {source x0 x1 y0 y1 : Value} {zs : List Value}
    (rows : Rows source [x0, x1] [y0, y1] zs) (writable : source.Writable) :
    ∀ place ∈ [("x0", x0), ("x1", x1), ("y0", y0), ("y1", y1)], place.2.Writable := by
  -- They are items of the items of the value.
  obtain ⟨items, xItems, yItems, _⟩ := rows
  have first : ∀ item ∈ [x0, x1], item.Writable := fun item => (writable.item items (by simp)).item xItems
  have second : ∀ item ∈ [y0, y1], item.Writable := fun item => (writable.item items (by simp)).item yItems
  simpa [and_assoc] using And.intro first second

/-- A writable value that is faulty is refused by that fault. -/
theorem Faulty.ofValue_eq {label : String} {source : Value} {kind : FaultKind} {context : Context}
    (faulty : G2.Faulty label source kind context) (writable : source.Writable) :
    ∃ message, G2.ofValue (some label) source = .error (.classified ⟨kind, message, context⟩) := by
  -- Each fault fixes every check that comes before it.
  cases faulty with
  | format formless =>
    unfold G2.ofValue
    split
    · rename_i items
      exact absurd items (formless _ _ _)
    · exact ⟨_, rfl⟩
  | @flat x y z items single =>
    simp only [G2.ofValue, items]
    split
    -- Where all three are sequences, none of them is single.
    · rename_i xItems yItems zItems
      simp [xItems, yItems, zItems] at single
    · rename_i xItems yItems zItems
      simp [xItems, yItems, zItems] at single
    · exact ⟨_, rfl⟩
  | scaleLength rows unpaired =>
    obtain ⟨items, xItems, yItems, zItems⟩ := rows
    simp only [G2.ofValue, items, xItems, yItems, zItems]
    split
    · rename_i paired
      rw [Option.some.inj paired] at unpaired
      exact absurd rfl unpaired
    · exact ⟨_, rfl⟩
    · rename_i single
      exact (single _ _ _ rfl rfl rfl).elim
  | @nonAffine xs ys z0 z1 scale0 scale1 rows scaled0 scaled1 finite projective =>
    obtain ⟨items, xItems, yItems, zItems⟩ := rows
    have within : ∀ scale ∈ [z0, z1], scale.Writable := fun scale member =>
      (writable.item items (by simp)).item zItems member
    have worded : (Cause.nonAffineG2 (some label) scale0 scale1).message? =
        some s!"non-affine G2 point (z=[{scale0}, {scale1}])" := by
      simp only [Cause.message?, Text.decimal?_natCast ((within z0 (by simp)).natural_lt scaled0),
        Text.decimal?_natCast ((within z1 (by simp)).natural_lt scaled1)]
      rfl
    -- The reader tests the two numbers one by one.
    have finite : ¬ (scale0 = 0 ∧ scale1 = 0) := by simpa using finite
    have projective : scale0 ≠ 1 ∨ scale1 ≠ 0 := by
      rw [ne_eq, Prod.mk.injEq] at projective
      omega
    refine ⟨s!"non-affine G2 point (z=[{scale0}, {scale1}])", ?_⟩
    simp only [G2.ofValue, items, xItems, yItems, zItems, Point.scale_eq_ok_iff.mpr scaled0,
      Point.scale_eq_ok_iff.mpr scaled1, Bind.bind, Except.bind, if_neg finite, if_pos projective,
      Cause.raise_eq_classified _ worded]
    rfl
  | lengths rows scaled0 scaled1 unpaired =>
    obtain ⟨items, xItems, yItems, zItems⟩ := rows
    simp only [G2.ofValue, items, xItems, yItems, zItems, Point.scale_eq_ok_iff.mpr scaled0,
      Point.scale_eq_ok_iff.mpr scaled1, Bind.bind, Except.bind]
    -- The scale is that of an affine point, so the lengths come next.
    rw [if_neg (by decide), if_neg (by decide)]
    split
    · simp at unpaired
    · exact ⟨_, rfl⟩
  | @tooLarge x0 x1 y0 y1 z0 z1 part number rows scaled0 scaled1 first =>
    have unread := first.readAll_eq (some label) (rows.writable_coordinates writable)
    rw [← ended_ofValue rows scaled0 scaled1] at unread
    exact ⟨_, ended_eq_error_iff.mp unread⟩

end G2

/--
Points are refused by their first fault, in the kinds of faults that points have.

A G1 point and a G2 point are refused with such a kind and a context exactly when they are faulty in that way. What
stands in a place that comes behind the fault has no part in it.
-/
theorem point_faults_exact (label : String) (source : Value) (writable : source.Writable) :
    ∀ kind ∈ Point.faultKinds, ∀ context,
      ((∃ message, (Encode.g1 (some label) source).result = .error (.classified ⟨kind, message, context⟩)) ↔
        G1.Faulty label source kind context) ∧
      ((∃ message, (Encode.g2 (some label) source).result = .error (.classified ⟨kind, message, context⟩)) ↔
        G2.Faulty label source kind context) := by
  intro kind member context
  -- The encoders fail as the readers do.
  have first {failure : Failure} : (Encode.g1 (some label) source).result = .error failure ↔
      G1.ofValue (some label) source = .error failure := by
    rw [← ended_eq_error_iff, Encode.ended_g1, ended_eq_error_iff]
  have second {failure : Failure} : (Encode.g2 (some label) source).result = .error failure ↔
      G2.ofValue (some label) source = .error failure := by
    rw [← ended_eq_error_iff, Encode.ended_g2, ended_eq_error_iff]
  simp only [first, second]
  constructor
  · constructor
    · intro ⟨message, failed⟩
      exact G1.faulty_of_ofValue member failed
    · intro faulty
      exact faulty.ofValue_eq writable
  · constructor
    · intro ⟨message, failed⟩
      exact G2.faulty_of_ofValue member failed
    · intro faulty
      exact faulty.ofValue_eq writable

/-- A G2 point whose first coordinate is too large and whose second one is nothing. -/
def overflowingPoint : Value :=
  .list [.list [.int baseModulus, .null], .list [.int 1, .int 2], .list [.int 1, .int 0]]

/-- The numbers of this point are short. -/
theorem overflowingPoint_writable : overflowingPoint.Writable := by
  -- A number that fits a field word has far fewer digits than are written.
  have small {number : Nat} (fits : number < Word.fieldBound) : (Value.int number).Writable :=
    .int (Nat.lt_of_lt_of_le fits Text.fieldBound_le_decimalBound)
  have large : (Value.int baseModulus).Writable := small Word.baseModulus_lt_fieldBound
  have zero : (Value.int 0).Writable := small (by decide : 0 < Word.fieldBound)
  have one : (Value.int 1).Writable := small (by decide : 1 < Word.fieldBound)
  have two : (Value.int 2).Writable := small (by decide : 2 < Word.fieldBound)
  have pair {a b : Value} (first : a.Writable) (second : b.Writable) : (Value.list [a, b]).Writable :=
    .list (List.forall_mem_cons.mpr ⟨first, List.forall_mem_singleton.mpr second⟩)
  refine .list (List.forall_mem_cons.mpr ⟨pair large .null, List.forall_mem_cons.mpr ⟨pair one two, ?_⟩⟩)
  exact List.forall_mem_singleton.mpr (pair one zero)

/-- The first coordinate is the fault of the point, though the second one could not be read at all. -/
theorem point_faults_exact_overflowing :
    ∃ message, (Encode.g2 (some "pi_b") overflowingPoint).result = .error (.classified ⟨.coordinateOutOfRange, message,
      [("label", .text "pi_b.x0"), ("value", .int baseModulus), ("modulus", .int baseModulus)]⟩) := by
  have exact := point_faults_exact "pi_b" overflowingPoint overflowingPoint_writable .coordinateOutOfRange (by decide)
  -- The scale is read, and nothing stands before the first coordinate.
  have rows : G2.Rows overflowingPoint [.int baseModulus, .null] [.int 1, .int 2] [.int 1, .int 0] :=
    .intro rfl rfl rfl rfl
  exact (exact _).2.mpr (.tooLarge rows rfl rfl (.here rfl (Nat.le_refl _)))

end ProofWire
