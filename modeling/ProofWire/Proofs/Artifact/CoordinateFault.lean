import ProofWire.Proofs.Artifact.PointFault
import ProofWire.Proofs.Artifact.Signal

/-! Where an encoder stops at a number: the coordinate that is refused as such behind all that passed, and where its
fault is located. -/

namespace ProofWire

/-- A fault that has a label and no index is located at its label. -/
theorem Fault.location?_of_label {fault : Fault} {label : String}
    (known : fault.context.lookup "label" = some (.text label)) (single : fault.context.lookup "index" = none)
    (named : label ≠ "") : fault.location? = some (.text label) := by
  -- The label alone makes the place, since it is no empty text.
  have given : fault.context.given? "label" = some (.text label) := by
    rw [Context.given?, known]
  have alone : fault.context.given? "index" = none := by
    rw [Context.given?, single]
  rw [location?, given, alone]
  simp only [Value.isPresent_text named, if_true]

namespace Point

/-- The label of a part is not empty. -/
theorem partLabel_ne_empty (label : Option String) (part : String) : partLabel label part ≠ "" := by
  intro empty
  -- It has a dot in it.
  have characters := congrArg String.toList empty
  simp only [partLabel, String.toList_append] at characters
  simp at characters

/-- A writable value that is refused as a coordinate is refused by a fault that is located at the label of its place. -/
theorem exists_fault_of_coordinate {label : Option String} {part : String} {source : Value} {failure : Failure}
    (writable : source.Writable) (refused : coordinate label part source = .error failure) :
    ∃ fault, failure = .classified fault ∧ fault.location? = some (.text (partLabel label part)) := by
  rcases bind_eq_error_iff.mp refused with unread | ⟨number, read, _⟩
  · -- The fault of a literal knows no place, so it takes up the label.
    obtain ⟨own, natural, rfl⟩ := located_eq_error_iff.mp unread
    obtain ⟨cause, message, refuses, rfl⟩ :=
      (Value.raised_natural natural).exists_fault (Value.unlocated_natural natural) writable
    refine ⟨_, rfl, Fault.location?_of_label ?_ ?_ (partLabel_ne_empty label part)⟩
    · rw [Fault.mention, Context.lookup_mentionAll, refuses.unplaced.1]
      rfl
    · rw [Fault.mention, Context.lookup_mentionAll, refuses.unplaced.2]
      rfl
  · -- The fault of a number that is too large has the label from the start.
    have read := located_eq_ok_iff.mp read
    have large : baseModulus ≤ number := by
      by_contra small
      rw [coordinate_of_natural read (Nat.not_le.mp small)] at refused
      cases refused
    rw [coordinate_of_tooLarge writable read large] at refused
    cases refused
    exact ⟨_, rfl, Fault.location?_of_label rfl rfl (partLabel_ne_empty label part)⟩

/-- Nothing is refused as a coordinate, under the label of its place. -/
theorem exists_fault_of_null (label : Option String) (part : String) :
    ∃ fault, coordinate label part .null = .error (.classified fault) ∧
      fault.location? = some (.text (partLabel label part)) := by
  -- Null is of no type that a literal can have.
  have refused : coordinate label part .null = .error
      ((Cause.unsupportedElement "NoneType").raise.mention [("label", .text (partLabel label part))]) := rfl
  obtain ⟨fault, same, located⟩ := exists_fault_of_coordinate .null refused
  exact ⟨fault, by rw [refused, same], located⟩

/-- In a row of places there is one that is refused as a coordinate, and before it there are nothing but coordinates. -/
inductive FirstRefused (label : Option String) : List (String × Value) → String → Failure → Prop where
  | here {part : String} {source : Value} {failure : Failure} {rest : List (String × Value)}
    (refused : coordinate label part source = .error failure) :
    FirstRefused label ((part, source) :: rest) part failure
  | later {part name : String} {source : Value} {number : Nat} {failure : Failure} {rest : List (String × Value)}
    (read : source.natural = .ok number) (range : number < baseModulus)
    (behind : FirstRefused label rest name failure) : FirstRefused label ((part, source) :: rest) name failure

variable {label : Option String} {places : List (String × Value)} {part : String} {failure : Failure}

/-- Places fail to be read exactly as the first one that is refused. -/
theorem readAll_eq_error_iff :
    readAll label places = .error failure ↔ ∃ part, FirstRefused label places part failure := by
  -- Either the first place is refused, or it is read as a coordinate and the rest decides.
  induction places with
  | nil =>
    constructor
    · nofun
    · rintro ⟨_, first⟩
      cases first
  | cons place rest ih =>
    obtain ⟨part, source⟩ := place
    rw [readAll, bind_eq_error_iff]
    constructor
    · rintro (refused | ⟨small, passed, later⟩)
      · exact ⟨part, .here refused⟩
      · obtain ⟨name, behind⟩ := ih.mp later
        exact ⟨name, .later (Coordinate.ofValue_eq_ok_iff.mp passed) small.inRange behind⟩
    · rintro ⟨name, first⟩
      cases first with
      | here refused => exact .inl refused
      | later read range behind => exact .inr ⟨_, coordinate_of_natural read range, ih.mpr ⟨name, behind⟩⟩

/-- The place that is refused first is one of the row. -/
theorem FirstRefused.exists_place (first : FirstRefused label places part failure) :
    ∃ source, (part, source) ∈ places ∧ coordinate label part source = .error failure := by
  -- It is the first of the row, or it is met later.
  induction first with
  | here refused => exact ⟨_, List.mem_cons_self, refused⟩
  | later _ _ _ ih =>
    obtain ⟨source, member, refused⟩ := ih
    exact ⟨source, List.mem_cons_of_mem _ member, refused⟩

end Point

/-- The coordinates of a value that is read as an affine G1 point, in the order of reading. -/
inductive G1.Places (source : Value) : List (String × Value) → Prop where
  | affine {x y z : Value} (items : source.items? = some [x, y, z]) (scaled : z.natural = .ok 1) :
    Places source [("x", x), ("y", y)]

/-- The coordinates of a value that is read as an affine G2 point, in the order of reading. -/
inductive G2.Places (source : Value) : List (String × Value) → Prop where
  | affine {x0 x1 y0 y1 z0 z1 : Value} (rows : G2.Rows source [x0, x1] [y0, y1] [z0, z1])
    (scaled0 : z0.natural = .ok 1) (scaled1 : z1.natural = .ok 0) :
    Places source [("x0", x0), ("x1", x1), ("y0", y0), ("y1", y1)]

section

variable {source : Value} {places : List (String × Value)}

/-- A value with coordinates is read as these are. -/
theorem G1.Places.ended_ofValue (affine : G1.Places source places) (label : Option String) :
    ended (G1.ofValue label source) = Point.readAll label places := by
  cases affine with
  | affine items scaled => exact G1.ended_ofValue items scaled

/-- A value with coordinates is read as these are. -/
theorem G2.Places.ended_ofValue (affine : G2.Places source places) (label : Option String) :
    ended (G2.ofValue label source) = Point.readAll label places := by
  cases affine with
  | affine rows scaled0 scaled1 => exact G2.ended_ofValue rows scaled0 scaled1

variable {label : Option String} {part : String} {failure : Failure}

/-- A value with coordinates is refused as the first of them that is refused. -/
theorem G1.Places.ofValue_eq_error (affine : G1.Places source places)
    (first : Point.FirstRefused label places part failure) : G1.ofValue label source = .error failure := by
  rw [← ended_eq_error_iff, affine.ended_ofValue]
  exact Point.readAll_eq_error_iff.mpr ⟨part, first⟩

/-- A value with coordinates is refused as the first of them that is refused. -/
theorem G2.Places.ofValue_eq_error (affine : G2.Places source places)
    (first : Point.FirstRefused label places part failure) : G2.ofValue label source = .error failure := by
  rw [← ended_eq_error_iff, affine.ended_ofValue]
  exact Point.readAll_eq_error_iff.mpr ⟨part, first⟩

/-- The coordinates of a writable value are writable. -/
theorem G1.Places.writable (affine : G1.Places source places) (writable : source.Writable) :
    ∀ place ∈ places, place.2.Writable := by
  -- Both coordinates are items of the point.
  cases affine with
  | affine items scaled =>
    refine List.forall_mem_cons.mpr ⟨writable.item items (by simp), ?_⟩
    exact List.forall_mem_singleton.mpr (writable.item items (by simp))

/-- The coordinates of a writable value are writable. -/
theorem G2.Places.writable (affine : G2.Places source places) (writable : source.Writable) :
    ∀ place ∈ places, place.2.Writable := by
  cases affine with
  | affine rows scaled0 scaled1 => exact rows.writable_coordinates writable

end

namespace Encode

/-- A step reads the coordinates of an affine point, under the label of the point. -/
inductive Step.Reads (source : Value) : Step → String → List (String × Value) → Prop where
  | g1 {key : String} {point : Value} {places : List (String × Value)} (held : source.below? key = some point)
    (affine : G1.Places point places) : Reads source (.g1 key) key places
  | g2 {key : String} {point : Value} {places : List (String × Value)} (held : source.below? key = some point)
    (affine : G2.Places point places) : Reads source (.g2 key) key places
  | rowPoint {index : Nat} {point : Value} {places : List (String × Value)}
    (there : source.rowItems?.bind (·[index]?) = some point) (affine : G1.Places point places) :
    Reads source (.rowPoint index) (VerificationKey.icLabel index) places

namespace Step.Reads

variable {source : Value} {step : Step} {label : String} {places : List (String × Value)}

/-- A step that reads coordinates ends as they are read. -/
theorem run_eq (reads : step.Reads source label places) : step.run source = Point.readAll (some label) places := by
  -- Each step reads one point, found by its key or by its index in the row.
  cases reads with
  | g1 held affine => rw [run, held, onPart, ended_g1, affine.ended_ofValue]
  | g2 held affine => rw [run, held, onPart, ended_g2, affine.ended_ofValue]
  | rowPoint there affine => rw [run, there, onPart, ended_g1, affine.ended_ofValue]

/-- The coordinates of a writable value are writable. -/
theorem writable (reads : step.Reads source label places) (writable : source.Writable) :
    ∀ place ∈ places, place.2.Writable := by
  -- What is met within a point is met within the value.
  cases reads with
  | g1 held affine => exact affine.writable (writable.of_occurs (Value.occurs_of_below? held))
  | g2 held affine => exact affine.writable (writable.of_occurs (Value.occurs_of_below? held))
  | rowPoint there affine => exact affine.writable (writable.of_occurs (Value.occurs_of_rowItem there))

end Step.Reads

/-- An encoder that ends as its steps do fails with the failure of the first step that fails. -/
theorem result_of_firstFailure {encode : Value → Traced Bytes} {source : Value} {steps before : List Step}
    {step : Step} {failure : Failure} (ends : ended (encode source).result = Step.runAll source steps)
    (first : Step.FirstFailure source steps before step failure) : (encode source).result = .error failure := by
  rw [← ended_eq_error_iff, ends, Step.runAll_eq_error_iff]
  exact ⟨before, step, first⟩

/-- An encoder stops at a coordinate of a point: the steps in front end well, the next one reads an affine point, and
of its coordinates this one is the first that is refused. -/
structure StopsAt (source : Value) (steps : List Step) (step : Step) (label part : String) (failure : Failure) :
    Prop where
  reached : ∃ before, before ++ [step] <+: steps ∧ ∀ other ∈ before, other.run source = .ok ()
  refused : ∃ places, step.Reads source label places ∧ Point.FirstRefused (some label) places part failure

namespace StopsAt

variable {source : Value} {steps : List Step} {step : Step} {label part : String} {failure : Failure}

/-- The step of the coordinate is the first that fails. -/
theorem exists_firstFailure (stops : StopsAt source steps step label part failure) :
    ∃ before, Step.FirstFailure source steps before step failure := by
  -- The steps before it pass, and this one ends where its coordinates do.
  obtain ⟨⟨before, inOrder, earlier⟩, places, reads, first⟩ := stops
  refine ⟨before, inOrder, earlier, ?_⟩
  rw [reads.run_eq]
  exact Point.readAll_eq_error_iff.mpr ⟨part, first⟩

/-- An encoder that ends as its steps do fails with the failure of the coordinate. -/
theorem result_eq {encode : Value → Traced Bytes} (stops : StopsAt source steps step label part failure)
    (ends : ended (encode source).result = Step.runAll source steps) : (encode source).result = .error failure := by
  obtain ⟨before, first⟩ := stops.exists_firstFailure
  exact result_of_firstFailure ends first

/-- The step reads the coordinate, which is refused. -/
theorem exists_place (stops : StopsAt source steps step label part failure) :
    ∃ places item, step.Reads source label places ∧ (part, item) ∈ places ∧
      Point.coordinate (some label) part item = .error failure := by
  -- Such a stop names the step and the place that is read there.
  obtain ⟨_, places, reads, first⟩ := stops
  obtain ⟨item, member, refused⟩ := first.exists_place
  exact ⟨places, item, reads, member, refused⟩

/-- On a writable value the failure is a fault that is located at the label of the coordinate. -/
theorem exists_fault (stops : StopsAt source steps step label part failure) (writable : source.Writable) :
    ∃ fault, failure = .classified fault ∧ fault.location? = some (.text (label ++ "." ++ part)) := by
  obtain ⟨places, item, reads, member, refused⟩ := stops.exists_place
  exact Point.exists_fault_of_coordinate (reads.writable writable _ member) refused

/-- The step is one of those that are taken. -/
theorem mem (stops : StopsAt source steps step label part failure) : step ∈ steps := by
  obtain ⟨before, inOrder, _⟩ := stops.reached
  exact inOrder.subset (by simp)

end StopsAt

end Encode

/-- Public inputs whose first refused signal is known fail with its fault under the index, which knows no other
place. -/
theorem PublicInputs.FirstRefused.exists_fault {source : Value} {items : List Value} {index : Nat} {own : Failure}
    (first : PublicInputs.FirstRefused items index own) (writable : source.Writable)
    (given : source.items? = some items) :
    ∃ fault : Fault, own = .classified fault ∧
      (fault.context.lookup "label" = none ∧ fault.context.lookup "index" = none) ∧
      (Encode.publicBytes source).result = .error (.classified (fault.atSignal index)) := by
  -- What refuses a writable scalar is worded, and it knows no place of its own yet.
  obtain ⟨item, there, refused⟩ := first.refused
  have within : item.Writable := writable.item given (List.mem_of_getElem? there)
  obtain ⟨cause, message, refuses, rfl⟩ := Scalar.exists_fault_ofValue within refused
  refine ⟨_, rfl, refuses.unplaced, ?_⟩
  rw [PublicInputs.result_publicBytes_of_firstRefused given first, Failure.mention, Fault.mention,
    Context.mentionAll_signal refuses.unplaced, Fault.atSignal]

end ProofWire
