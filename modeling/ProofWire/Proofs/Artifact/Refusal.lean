import ProofWire.Proofs.Artifact.Acceptance
import ProofWire.Proofs.Fault.Mention

/-! Refusals: where the readers of points and of entries place the faults of what they refuse. -/

namespace ProofWire

/-- The categories that callers can tell apart. -/
def Category.documented : List Category :=
  [.parse, .range, .format, .nonAffine]

/-- No cause gives a fault outside the documented categories. -/
theorem Cause.categoryOf_kind (cause : Cause) : cause.kind.categoryOf ∈ Category.documented := by
  cases cause <;> simp [kind, FaultKind.categoryOf, Category.documented]

namespace Failure

/--
A failure refuses a value under one of some labels.

It is a documented fault with such a label; only where the value holds a number too long to write can the failure
be that of writing the message.
-/
inductive Refuses (source : Value) (labels : List String) : Failure → Prop where
  | fault {fault : Fault} {label : String} (documented : fault.kind.categoryOf ∈ Category.documented)
    (known : fault.context.lookup "label" = some (.text label)) (member : label ∈ labels) :
    Refuses source labels (.classified fault)
  | tooLong (unwritable : ¬ source.Writable) : Refuses source labels (.digits none)

/-- What refuses a part of a value refuses the value, under more labels if need be. -/
theorem Refuses.weaken {part source : Value} {few many : List String} {failure : Failure}
    (refuses : failure.Refuses part few) (within : source.Writable → part.Writable)
    (more : ∀ label ∈ few, label ∈ many) : failure.Refuses source many := by
  -- More labels leave more places to blame, and a part has no longer numbers than the whole.
  cases refuses with
  | fault documented known member => exact .fault documented known (more _ member)
  | tooLong unwritable => exact .tooLong fun writable => unwritable (within writable)

/-- A computation that raises a cause with a known label refuses the value under that label. -/
theorem refuses_of_raise {α : Type} {source : Value} {labels : List String} {label : String} {cause : Cause}
    {failure : Failure} (raised : (.error cause.raise : Except Failure α) = .error failure)
    (known : cause.context.lookup "label" = some (.text label)) (member : label ∈ labels)
    (worded : source.Writable → cause.message?.isSome = true) : failure.Refuses source labels := by
  rw [← Except.error.inj raised]
  -- A cause whose message cannot be written leaves a failure without any context.
  rcases cause.raise_cases with ⟨message, faulty⟩ | ⟨unwritten, wordless⟩
  · rw [faulty]
    exact .fault cause.categoryOf_kind known member
  · rw [unwritten]
    exact .tooLong fun writable => wordless (worded writable)

/-- A failure that names no place is located by the label mentioned first. -/
theorem Unlocated.refuses_mention {source : Value} {label : String} {rest : Context} {failure : Failure}
    (unlocated : failure.Unlocated source.Writable) :
    (failure.mention (("label", .text label) :: rest)).Refuses source [label] := by
  obtain ⟨cause, raised, unlabelled, worded⟩ := unlocated
  rw [raised]
  rcases cause.raise_cases with ⟨message, faulty⟩ | ⟨unwritten, wordless⟩
  · -- A mention never replaces what is known, so the cause must not have had a label before.
    rw [faulty]
    have known : (cause.context.mentionAll (("label", .text label) :: rest)).lookup "label" =
        some (.text label) := by
      rw [Context.lookup_mentionAll, unlabelled, Option.none_or, List.lookup_cons_self]
    exact .fault cause.categoryOf_kind known List.mem_cons_self
  · rw [unwritten]
    exact .tooLong fun writable => wordless (worded writable)

end Failure

/-- Locating a computation locates the failure that it ends with. -/
theorem located_eq_error_iff {α : Type} {entries : Context} {computation : Except Failure α}
    {failure : Failure} : located entries computation = .error failure ↔
      ∃ cause, computation = .error cause ∧ failure = cause.mention entries := by
  -- Only a failure is changed by locating it.
  cases computation with
  | ok value => simp [located]
  | error cause => simp [located, eq_comm]

/-- A value that is no scalar is refused in words that are written when it is writable. -/
theorem Scalar.unlocated_ofValue {source : Value} {failure : Failure}
    (failed : Scalar.ofValue source = .error failure) : failure.Unlocated source.Writable := by
  -- The value is no literal, or its number is too large; that number is as short as those of the value.
  rcases bind_eq_error_iff.mp failed with refused | ⟨number, read, refused⟩
  · exact Value.unlocated_natural refused
  · split at refused
    · cases refused
    · refine ⟨.scalarOutOfRange number, (Except.error.inj refused).symm, rfl, ?_⟩
      intro writable
      simp only [Cause.message?, Text.decimal?_natCast (writable.natural_lt read)]
      rfl

/-- A value that is no coordinate is refused under the label of the coordinate. -/
theorem Coordinate.refuses_of_ofValue {label : String} {source : Value} {failure : Failure}
    (failed : Coordinate.ofValue label source = .error failure) : failure.Refuses source [label] := by
  -- The value is no literal, or its number is too large; both are told under the label.
  rcases bind_eq_error_iff.mp failed with refused | ⟨number, read, refused⟩
  · obtain ⟨cause, natural, rfl⟩ := located_eq_error_iff.mp refused
    exact (Value.unlocated_natural natural).refuses_mention
  · split at refused
    · cases refused
    · refine Failure.refuses_of_raise refused rfl List.mem_cons_self ?_
      intro writable
      have denoted := located_eq_ok_iff.mp read
      simp only [Cause.message?, Text.decimal?_natCast (writable.natural_lt denoted)]
      rfl

namespace Point

/-- The labels of a point: its own, and those of its parts. -/
def labels (key : String) (parts : List String) : List String :=
  key :: parts.map (partLabel (some key))

/-- A point carries its own label. -/
theorem mem_labels_self {key : String} {parts : List String} : key ∈ labels key parts :=
  List.mem_cons_self

/-- The label of a part is one of the labels of its point. -/
theorem mem_labels_of_mem {key part : String} {parts : List String} (member : part ∈ parts) :
    partLabel (some key) part ∈ labels key parts :=
  List.mem_cons_of_mem _ (List.mem_map_of_mem member)

/-- A scale that cannot be read is refused under the label of its place. -/
theorem refuses_of_scale {key part : String} {parts : List String} {source item : Value} {failure : Failure}
    (failed : scale (some key) part item = .error failure) (within : source.Writable → item.Writable)
    (member : part ∈ parts) : failure.Refuses source (labels key parts) := by
  -- The label is the only one that is mentioned, and it is one of the point's.
  obtain ⟨cause, natural, rfl⟩ := located_eq_error_iff.mp failed
  refine (Value.unlocated_natural natural).refuses_mention.weaken within ?_
  intro label same
  rw [List.mem_singleton.mp same]
  exact mem_labels_of_mem member

/-- A coordinate that cannot be read is refused under the label of its place. -/
theorem refuses_of_coordinate {key part : String} {parts : List String} {source item : Value}
    {failure : Failure} (failed : coordinate (some key) part item = .error failure)
    (within : source.Writable → item.Writable) (member : part ∈ parts) :
    failure.Refuses source (labels key parts) := by
  -- The label is the only one that is mentioned, and it is one of the point's.
  refine (Coordinate.refuses_of_ofValue failed).weaken within ?_
  intro label same
  rw [List.mem_singleton.mp same]
  exact mem_labels_of_mem member

/-- Two coordinates that are read in turn are refused under the labels of their places, or what follows fails. -/
theorem refuses_of_coordinates {β : Type} {key first second : String} {parts : List String}
    {source a b : Value} {failure : Failure} {next : Coordinate → Coordinate → Except Failure β}
    (failed : (coordinate (some key) first a >>= fun u => coordinate (some key) second b >>= next u) =
      .error failure)
    (aWithin : source.Writable → a.Writable) (bWithin : source.Writable → b.Writable)
    (members : first ∈ parts ∧ second ∈ parts) :
    failure.Refuses source (labels key parts) ∨ ∃ u v, next u v = .error failure := by
  -- The first is refused, or the second is, or both are read and handed on.
  rcases bind_eq_error_iff.mp failed with refused | ⟨u, _, later⟩
  · exact Or.inl (refuses_of_coordinate refused aWithin members.1)
  · rcases bind_eq_error_iff.mp later with refused | ⟨v, _, left⟩
    · exact Or.inl (refuses_of_coordinate refused bWithin members.2)
    · exact Or.inr ⟨u, v, left⟩

/-- The number of a scale in a writable value has a text. -/
theorem decimal?_scale {label : Option String} {part : String} {item : Value} {number : Nat}
    (writable : item.Writable) (read : scale label part item = .ok number) :
    Text.decimal? number = some (toString number) :=
  Text.decimal?_natCast (writable.natural_lt (scale_eq_ok_iff.mp read))

end Point

/-- The places of a G1 point. -/
def G1.parts : List String :=
  ["x", "y", "z"]

/-- The places of a G2 point. -/
def G2.parts : List String :=
  ["x0", "x1", "y0", "y1", "z0", "z1"]

/-- A value that is no G1 point is refused under its label or that of a place. -/
theorem G1.refuses_of_ofValue {key : String} {source : Value} {failure : Failure}
    (failed : G1.ofValue (some key) source = .error failure) :
    failure.Refuses source (Point.labels key G1.parts) := by
  -- The reader fails at its scale, for its scale, at a coordinate, or for the shape of the value.
  unfold G1.ofValue at failed
  split at failed
  case h_1 x y z items =>
    have xWithin : source.Writable → x.Writable := fun writable => writable.item items (by simp)
    have yWithin : source.Writable → y.Writable := fun writable => writable.item items (by simp)
    have zWithin : source.Writable → z.Writable := fun writable => writable.item items (by simp)
    rcases bind_eq_error_iff.mp failed with refused | ⟨scale, scaled, later⟩
    · exact Point.refuses_of_scale refused zWithin (by decide)
    · split at later
      · cases later
      · split at later
        · refine Failure.refuses_of_raise later rfl Point.mem_labels_self ?_
          intro writable
          simp only [Cause.message?, Point.decimal?_scale (zWithin writable) scaled]
          rfl
        · -- With both coordinates there is a point, and no failure.
          have members : "x" ∈ parts ∧ "y" ∈ parts := by decide
          rcases Point.refuses_of_coordinates later xWithin yWithin members with refuses | ⟨_, _, done⟩
          · exact refuses
          · cases done
  case h_2 =>
    exact Failure.refuses_of_raise failed rfl Point.mem_labels_self fun _ => rfl

/-- A value that is no G2 point is refused under its label or that of a place. -/
theorem G2.refuses_of_ofValue {key : String} {source : Value} {failure : Failure}
    (failed : G2.ofValue (some key) source = .error failure) :
    failure.Refuses source (Point.labels key G2.parts) := by
  -- The reader fails at a scale, for the scales, for the lengths of the other pairs, at a coordinate, or for a shape.
  unfold G2.ofValue at failed
  split at failed
  case h_1 x y z items =>
    have xWithin : source.Writable → x.Writable := fun writable => writable.item items (by simp)
    have yWithin : source.Writable → y.Writable := fun writable => writable.item items (by simp)
    have zWithin : source.Writable → z.Writable := fun writable => writable.item items (by simp)
    split at failed
    case h_1 xs ys z0 z1 xItems yItems zItems =>
      have z0Within : source.Writable → z0.Writable := fun writable => (zWithin writable).item zItems (by simp)
      have z1Within : source.Writable → z1.Writable := fun writable => (zWithin writable).item zItems (by simp)
      rcases bind_eq_error_iff.mp failed with refused | ⟨scale0, scaled0, rest⟩
      · exact Point.refuses_of_scale refused z0Within (by decide)
      rcases bind_eq_error_iff.mp rest with refused | ⟨scale1, scaled1, later⟩
      · exact Point.refuses_of_scale refused z1Within (by decide)
      split at later
      · cases later
      · split at later
        · refine Failure.refuses_of_raise later rfl Point.mem_labels_self ?_
          intro writable
          simp only [Cause.message?, Point.decimal?_scale (z0Within writable) scaled0,
            Point.decimal?_scale (z1Within writable) scaled1]
          rfl
        · split at later
          · rename_i x0 x1 y0 y1
            have x0Within : source.Writable → x0.Writable := fun writable => (xWithin writable).item xItems (by simp)
            have x1Within : source.Writable → x1.Writable := fun writable => (xWithin writable).item xItems (by simp)
            have y0Within : source.Writable → y0.Writable := fun writable => (yWithin writable).item yItems (by simp)
            have y1Within : source.Writable → y1.Writable := fun writable => (yWithin writable).item yItems (by simp)
            have xMembers : "x0" ∈ parts ∧ "x1" ∈ parts := by decide
            have yMembers : "y0" ∈ parts ∧ "y1" ∈ parts := by decide
            -- The coordinates come in two pairs, and after those there is a point.
            rcases Point.refuses_of_coordinates later x0Within x1Within xMembers with refuses | ⟨_, _, last⟩
            · exact refuses
            rcases Point.refuses_of_coordinates last y0Within y1Within yMembers with refuses | ⟨_, _, done⟩
            · exact refuses
            · cases done
          · -- The lengths of the first two items are tested after the scale.
            exact Failure.refuses_of_raise later rfl Point.mem_labels_self fun _ => rfl
    -- The last item is no pair, or one of the items is no sequence at all.
    case h_2 =>
      exact Failure.refuses_of_raise failed rfl Point.mem_labels_self fun _ => rfl
    case h_3 =>
      exact Failure.refuses_of_raise failed rfl Point.mem_labels_self fun _ => rfl
  case h_2 =>
    exact Failure.refuses_of_raise failed rfl Point.mem_labels_self fun _ => rfl

/-- A value without an entry under a key is refused under that key. -/
theorem Value.refuses_of_entry {source : Value} {key : String} {failure : Failure}
    (failed : source.entry key = .error failure) : failure.Refuses source [key] := by
  -- The object has no such entry, or the value is no object at all; the words are the same.
  cases source with
  | object entries =>
    simp only [Value.entry] at failed
    split at failed
    · cases failed
    · exact Failure.refuses_of_raise failed rfl List.mem_cons_self fun _ => rfl
  | _ =>
    exact Failure.refuses_of_raise failed rfl List.mem_cons_self fun _ => rfl

/-- An entry is met within its object. -/
theorem Value.occurs_of_entry {source value : Value} {key : String}
    (found : source.entry key = .ok value) : value.Occurs source := by
  -- A lookup finds a member of the row of entries.
  obtain ⟨entries, rfl, held⟩ := Value.entry_eq_ok_iff.mp found
  obtain ⟨before, after, split, _⟩ := List.lookup_eq_some_iff.mp held
  have member : (key, value) ∈ entries := by
    rw [split]
    simp
  exact .entry member .self

end ProofWire
