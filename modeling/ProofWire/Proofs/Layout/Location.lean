import ProofWire.Proofs.Artifact.CoordinateFault
import ProofWire.Proofs.Layout.Partition

/-! Locations: the fault of a number is located at the slot into which the encoders write that number. -/

namespace ProofWire

/-- The bytes of a content in a slot. -/
def Slot.bytes (slot : Slot) (content : Bytes) : Bytes :=
  (content.drop slot.offset.toNat).take slot.size.toNat

/-- A slot is the only one of its name in a layout. -/
def Slot.AloneIn (slot : Slot) (layout : List Slot) : Prop :=
  ∀ other, other ∈ layout ∧ other.name = slot.name ↔ other = slot

/-- An encoder writes the coordinate of a point into a slot: in whatever it returns, the slot holds the word of the
number that stands in the place of the coordinate. -/
def Slot.Receives (slot : Slot) (encode : Value → Traced Bytes) (step : Encode.Step) (label part : String) : Prop :=
  ∀ source content places item number, (encode source).result = .ok content → step.Reads source label places →
    (part, item) ∈ places → item.natural = .ok number → slot.bytes content = fieldWord number

/-- The encoder of public inputs writes the signal of an index into a slot: in whatever it returns, the slot holds the
word of the number of that signal. -/
def Slot.ReceivesSignal (slot : Slot) (index : Nat) : Prop :=
  ∀ source content items item number, (Encode.publicBytes source).result = .ok content → source.items? = some items →
    items[index]? = some item → item.natural = .ok number → slot.bytes content = fieldWord number

/-- Some value is refused by a fault that is located at a name. -/
def Encode.LocatesAt (encode : Value → Traced Bytes) (name : String) : Prop :=
  ∃ source fault, (encode source).result = .error (.classified fault) ∧ fault.location? = some (.text name)

namespace Layout

/-- In a layout of different names every slot is the only one of its name. -/
theorem aloneIn_of_nodup {slots : List Slot} (names : (slots.map Slot.name).Nodup) {slot : Slot}
    (member : slot ∈ slots) : slot.AloneIn slots := by
  -- A second slot of the name would be the same one.
  intro other
  constructor
  · rintro ⟨otherMember, same⟩
    exact List.inj_on_of_nodup_map names otherMember member same
  · rintro rfl
    exact ⟨member, rfl⟩

/-- In a described layout, a slot holds the word of the number that is shown under its name. -/
theorem Describes.bytes_eq {layout : List Slot} {content : Bytes} {shows : Component → Prop}
    (described : Describes layout content shows) {slot : Slot} {number : Nat} (member : slot ∈ layout)
    (shown : shows ⟨slot.name, Word.fieldSize, number⟩) : slot.bytes content = fieldWord number := by
  obtain ⟨found, offset, _, unique, placed, _, slice⟩ := described.words slot member
  -- Only one component has the name of the slot.
  obtain rfl := unique _ shown rfl
  rw [Slot.bytes, placed]
  exact slice

/-- A longer row adds slots to the layout of a key and changes none. -/
theorem key_subset {few many : Int} (shorter : few ≤ many) : key few ⊆ key many := by
  have range : List.range few.toNat ⊆ List.range many.toNat :=
    List.range_subset.mpr (Int.toNat_le_toNat shorter)
  intro slot member
  simp only [key, List.mem_append, List.mem_cons, List.mem_flatMap] at member ⊢
  -- The slots in front of the row are the same.
  refine member.imp_right (Or.imp_right ?_)
  rintro ⟨index, within, shown⟩
  exact ⟨index, range within, shown⟩

/-- Slots of one name are the same in the layouts of all keys. -/
theorem key_slot_unique {few many : Int} {slot other : Slot} (member : slot ∈ key few) (otherMember : other ∈ key many)
    (same : other.name = slot.name) : other = slot := by
  -- Both belong to the layout of the longer row.
  have left := key_subset (Int.le_max_left few many) member
  have right := key_subset (Int.le_max_right few many) otherMember
  exact List.inj_on_of_nodup_map (partitions_key (max few many)).named right left same

/-- The slot of a signal belongs to every layout with more signals than its index. -/
theorem signal_mem {index : Nat} {count : Int} (within : index < count) : signal index ∈ publicInputs count :=
  List.mem_cons_of_mem _ (List.mem_map_of_mem (List.mem_range.mpr (by omega)))

/-- The location of the slot of a signal: its name, if the index has a text. -/
def signalLocation? (index : Nat) : Option Value :=
  (Text.decimal? index).map fun _ => .text (signal index).name

/-- A fault of a signal is located at its slot. -/
theorem location?_atSignal {fault : Fault}
    (unplaced : fault.context.lookup "label" = none ∧ fault.context.lookup "index" = none) (index : Nat) :
    (fault.atSignal index).location? = signalLocation? index := by
  rw [Fault.location?_atSignal unplaced, signalLocation?]
  -- The text of the index is the one that the name shows.
  by_cases short : index < Text.decimalBound
  · rw [Text.decimal?_natCast short]
    rfl
  · rw [Text.decimal?_eq_none (Nat.not_lt.mp short)]
    rfl

end Layout

section

variable {source item : Value} {places : List (String × Value)} {part : String} {number : Nat}

/-- A coordinate of a G1 point has a slot, which is named by it. -/
theorem G1.Places.exists_slot (affine : G1.Places source places) (member : (part, item) ∈ places) (label : String)
    (offset : Int) : ∃ slot ∈ Layout.g1 label offset, slot.name = label ++ "." ++ part := by
  -- There are two places, and a slot for each.
  cases affine with
  | affine items scaled =>
    simp only [List.mem_cons, List.not_mem_nil, or_false, Prod.mk.injEq] at member
    simp only [Layout.g1, List.exists_mem_cons_iff, String.append_assoc]
    rcases member with ⟨rfl, rfl⟩ | ⟨rfl, rfl⟩
    · exact .inl rfl
    · exact .inr (.inl rfl)

/-- A coordinate of a G2 point has a slot, which is named by it. -/
theorem G2.Places.exists_slot (affine : G2.Places source places) (member : (part, item) ∈ places) (label : String)
    (offset : Int) : ∃ slot ∈ Layout.g2 label offset, slot.name = label ++ "." ++ part := by
  cases affine with
  | affine rows scaled0 scaled1 =>
    simp only [List.mem_cons, List.not_mem_nil, or_false, Prod.mk.injEq] at member
    simp only [Layout.g2, List.exists_mem_cons_iff, String.append_assoc]
    -- The second part of each pair is read last and written first.
    rcases member with ⟨rfl, rfl⟩ | ⟨rfl, rfl⟩ | ⟨rfl, rfl⟩ | ⟨rfl, rfl⟩
    · exact .inr (.inl rfl)
    · exact .inl rfl
    · exact .inr (.inr (.inr (.inl rfl)))
    · exact .inr (.inr (.inl rfl))

/-- The numbers in the places of a G1 point are those that it shows. -/
theorem G1.Places.shows (affine : G1.Places source places) (member : (part, item) ∈ places)
    (read : item.natural = .ok number) : G1.Shows source part number := by
  -- There are two places, and what is read there is what the point shows.
  cases affine with
  | affine items scaled =>
    simp only [List.mem_cons, List.not_mem_nil, or_false, Prod.mk.injEq] at member
    rcases member with ⟨rfl, rfl⟩ | ⟨rfl, rfl⟩
    · exact .x items scaled read
    · exact .y items scaled read

/-- The numbers in the places of a G2 point are those that it shows. -/
theorem G2.Places.shows (affine : G2.Places source places) (member : (part, item) ∈ places)
    (read : item.natural = .ok number) : G2.Shows source part number := by
  -- There are four places, and what is read there is what the point shows.
  cases affine with
  | affine rows scaled0 scaled1 =>
    obtain ⟨items, xItems, yItems, zItems⟩ := rows
    simp only [List.mem_cons, List.not_mem_nil, or_false, Prod.mk.injEq] at member
    rcases member with ⟨rfl, rfl⟩ | ⟨rfl, rfl⟩ | ⟨rfl, rfl⟩ | ⟨rfl, rfl⟩
    · exact .x0 items zItems scaled0 scaled1 xItems read
    · exact .x1 items zItems scaled0 scaled1 xItems read
    · exact .y0 items zItems scaled0 scaled1 yItems read
    · exact .y1 items zItems scaled0 scaled1 yItems read

end

/-- An object holds what is found below its key. -/
theorem Value.holds_of_below? {source value : Value} {key : String} (held : source.below? key = some value) :
    source.Holds key value :=
  Value.entry_eq_ok_iff.mp (Value.below?_eq_some_iff.mp held)

namespace Encode

/-- The steps of a key are the fixed ones, and one for each point of its row. -/
theorem mem_keySteps_iff {source : Value} {step : Step} :
    step ∈ keySteps source ↔
      step ∈ fixedKeySteps ∨ ∃ items index, source.rowItems? = some items ∧ index < items.length ∧
        step = .rowPoint index := by
  rw [keySteps, List.mem_append, rowSteps, List.mem_map]
  -- Without a row there are no steps for its points.
  cases source.rowItems? with
  | none => simp
  | some items => simp [eq_comm]

/-- Every step of a key is a fixed one or reads a point of the row. -/
theorem fixed_or_rowPoint {source : Value} {step : Step} (taken : step ∈ keySteps source) :
    step ∈ fixedKeySteps ∨ ∃ index, step = .rowPoint index := by
  -- Behind the fixed steps there is one for each point of the row.
  refine (mem_keySteps_iff.mp taken).imp_right ?_
  rintro ⟨_, index, _, _, same⟩
  exact ⟨index, same⟩

/-- The points that are read lie within every row that is as long as that of the value. -/
theorem index_lt_of_rowPoint {source : Value} {index : Nat} (taken : .rowPoint index ∈ keySteps source) {count : Int}
    (same : ∀ items, source.rowItems? = some items → count = items.length) : (index : Int) < count := by
  -- No fixed step reads a point of the row.
  obtain ⟨items, other, given, within, here⟩ := (mem_keySteps_iff.mp taken).resolve_left (by simp [fixedKeySteps])
  cases here
  rw [same items given]
  exact Int.ofNat_lt.mpr within

namespace Step.Reads

variable {source item : Value} {step : Step} {label part : String} {places : List (String × Value)} {number : Nat}

/-- The coordinates of a proof are those of its three points. -/
theorem proof_cases (reads : step.Reads source label places) (taken : step ∈ proofSteps) :
    (∃ point, source.Holds label point ∧ G1.Places point places ∧ (label = "pi_a" ∨ label = "pi_c")) ∨
      ∃ point, source.Holds label point ∧ G2.Places point places ∧ label = "pi_b" := by
  -- The kind of the step tells which points it can be about.
  simp only [proofSteps, List.mem_cons, List.not_mem_nil, or_false] at taken
  cases reads with
  | g1 held affine =>
    simp only [reduceCtorEq, Step.g1.injEq, false_or] at taken
    exact .inl ⟨_, Value.holds_of_below? held, affine, taken⟩
  | g2 held affine =>
    simp only [reduceCtorEq, Step.g2.injEq, false_or, or_false] at taken
    exact .inr ⟨_, Value.holds_of_below? held, affine, taken⟩
  | rowPoint there affine => simp at taken

/-- The coordinates of a key are those of its four fixed points and of the points of its row. -/
theorem key_cases (reads : step.Reads source label places)
    (taken : step ∈ fixedKeySteps ∨ ∃ index, step = .rowPoint index) :
    (∃ point, source.Holds label point ∧ G1.Places point places ∧ label = "vk_alpha_1") ∨
      (∃ point, source.Holds label point ∧ G2.Places point places ∧
        (label = "vk_beta_2" ∨ label = "vk_gamma_2" ∨ label = "vk_delta_2")) ∨
      ∃ items index point, source.rowItems? = some items ∧ items[index]? = some point ∧ G1.Places point places ∧
        step = .rowPoint index ∧ label = VerificationKey.icLabel index := by
  -- The kind of the step tells which points it can be about.
  simp only [fixedKeySteps, List.mem_cons, List.not_mem_nil, or_false] at taken
  cases reads with
  | g1 held affine =>
    simp only [reduceCtorEq, Step.g1.injEq, false_or, or_false, exists_const] at taken
    exact .inl ⟨_, Value.holds_of_below? held, affine, taken⟩
  | g2 held affine =>
    simp only [reduceCtorEq, Step.g2.injEq, false_or, or_false, exists_const] at taken
    exact .inr (.inl ⟨_, Value.holds_of_below? held, affine, taken⟩)
  | rowPoint there affine =>
    obtain ⟨items, given, found⟩ := Option.bind_eq_some_iff.mp there
    exact .inr (.inr ⟨items, _, _, given, found, affine, rfl, rfl⟩)

/-- A coordinate of a proof has a slot in its layout. -/
theorem exists_proof_slot (reads : step.Reads source label places) (taken : step ∈ proofSteps)
    (member : (part, item) ∈ places) : ∃ slot ∈ Layout.proof, slot.name = label ++ "." ++ part := by
  -- The layout is made of those of the points, whose slots are named by the labels.
  rcases reads.proof_cases taken with ⟨point, _, affine, rfl | rfl⟩ | ⟨point, _, affine, rfl⟩
  · obtain ⟨slot, within, named⟩ := affine.exists_slot member "pi_a" 0
    exact ⟨slot, List.mem_append_left _ (List.mem_append_left _ within), named⟩
  · obtain ⟨slot, within, named⟩ := affine.exists_slot member "pi_c" (Layout.g1Size + Layout.g2Size)
    exact ⟨slot, List.mem_append_right _ within, named⟩
  · obtain ⟨slot, within, named⟩ := affine.exists_slot member "pi_b" Layout.g1Size
    exact ⟨slot, List.mem_append_left _ (List.mem_append_right _ within), named⟩

/-- The number in the place of a coordinate of a proof is shown under the name of the coordinate. -/
theorem proof_shows (reads : step.Reads source label places) (taken : step ∈ proofSteps)
    (member : (part, item) ∈ places) (read : item.natural = .ok number) :
    Proof.Shows source ⟨label ++ "." ++ part, Word.fieldSize, number⟩ := by
  -- A step of a proof that reads coordinates is that of one of its three points.
  rcases reads.proof_cases taken with ⟨point, held, affine, rfl | rfl⟩ | ⟨point, held, affine, rfl⟩
  · exact .a (.coordinate held (affine.shows member read))
  · exact .c (.coordinate held (affine.shows member read))
  · exact .b (.coordinate held (affine.shows member read))

/-- A coordinate of a key has a slot in the layout of every row that holds its point. -/
theorem exists_key_slot (reads : step.Reads source label places)
    (taken : step ∈ fixedKeySteps ∨ ∃ index, step = .rowPoint index) (member : (part, item) ∈ places) {count : Int}
    (counted : ∀ index, step = .rowPoint index → index < count) :
    ∃ slot ∈ Layout.key count, slot.name = label ++ "." ++ part := by
  -- The layout is made of those of the points, whose slots are named by the labels.
  simp only [Layout.key, List.mem_append, List.mem_cons, List.mem_flatMap, List.mem_range]
  rcases reads.key_cases taken with ⟨point, _, affine, rfl⟩ | ⟨point, _, affine, rfl | rfl | rfl⟩ |
    ⟨items, index, point, _, _, affine, rfl, rfl⟩
  · obtain ⟨slot, within, named⟩ := affine.exists_slot member "vk_alpha_1" 0
    exact ⟨slot, .inl (.inl (.inl (.inl within))), named⟩
  · obtain ⟨slot, within, named⟩ := affine.exists_slot member "vk_beta_2" Layout.g1Size
    exact ⟨slot, .inl (.inl (.inl (.inr within))), named⟩
  · obtain ⟨slot, within, named⟩ := affine.exists_slot member "vk_gamma_2" (Layout.g1Size + Layout.g2Size)
    exact ⟨slot, .inl (.inl (.inr within)), named⟩
  · obtain ⟨slot, within, named⟩ := affine.exists_slot member "vk_delta_2" (Layout.g1Size + 2 * Layout.g2Size)
    exact ⟨slot, .inl (.inr within), named⟩
  · -- The point lies within the row.
    have below : index < count.toNat := by
      have within := counted index rfl
      omega
    obtain ⟨slot, within, named⟩ := affine.exists_slot member (VerificationKey.icLabel index)
      (Layout.rowOffset + index * Layout.g1Size)
    exact ⟨slot, .inr (.inr ⟨index, below, within⟩), named⟩

/-- The number in the place of a coordinate of a key is shown under the name of the coordinate. -/
theorem key_shows (reads : step.Reads source label places)
    (taken : step ∈ fixedKeySteps ∨ ∃ index, step = .rowPoint index) (member : (part, item) ∈ places)
    (read : item.natural = .ok number) :
    VerificationKey.Shows source ⟨label ++ "." ++ part, Word.fieldSize, number⟩ := by
  -- A step of a key that reads coordinates is that of a fixed point or of one in the row.
  rcases reads.key_cases taken with ⟨point, held, affine, rfl⟩ | ⟨point, held, affine, rfl | rfl | rfl⟩ |
    ⟨items, index, point, given, found, affine, rfl, rfl⟩
  · exact .alpha (.coordinate held (affine.shows member read))
  · exact .beta (.coordinate held (affine.shows member read))
  · exact .gamma (.coordinate held (affine.shows member read))
  · exact .delta (.coordinate held (affine.shows member read))
  · obtain ⟨row, held, itemized⟩ := Option.bind_eq_some_iff.mp given
    exact .point (Value.holds_of_below? held) itemized found (affine.shows member read)

end Step.Reads

/-- The slot of a coordinate of a proof receives it. -/
theorem receives_proof {step : Step} {label part : String} {slot : Slot} (taken : step ∈ proofSteps)
    (member : slot ∈ Layout.proof) (named : slot.name = label ++ "." ++ part) :
    slot.Receives proofBytes step label part := by
  intro source content places item number encoded reads place read
  -- The layout describes what is encoded, whichever value it is.
  obtain ⟨words, denoted, written⟩ := proofBytes_eq_ok_iff.mp encoded
  have shown := reads.proof_shows taken place read
  rw [← named] at shown
  rw [written]
  exact denoted.described.bytes_eq member shown

/-- The slot of a coordinate of a key receives it, however long the row is. -/
theorem receives_key {step : Step} {label part : String} {slot : Slot} {count : Int}
    (taken : step ∈ fixedKeySteps ∨ ∃ index, step = .rowPoint index) (member : slot ∈ Layout.key count)
    (named : slot.name = label ++ "." ++ part) : slot.Receives keyBytes step label part := by
  intro source content places item number encoded reads place read
  obtain ⟨words, denoted, written⟩ := keyBytes_eq_ok_iff.mp encoded
  have shown := reads.key_shows taken place read
  -- What is shown has a slot in the layout of the key that was encoded.
  obtain ⟨other, within, same⟩ := denoted.described.complete _ shown
  obtain rfl := Layout.key_slot_unique member within (same.trans named.symm)
  rw [← named] at shown
  rw [written]
  exact denoted.described.bytes_eq within shown

/-- The slot of a signal receives it. -/
theorem receivesSignal_signal (index : Nat) : (Layout.signal index).ReceivesSignal index := by
  intro source content items item number encoded given found read
  obtain ⟨numbers, denoted, written⟩ := publicBytes_eq_ok_iff.mp encoded
  have shown : PublicInputs.Shows source ⟨s!"public[{index}]", Word.fieldSize, number⟩ := .signal given found read
  -- There are as many numbers as items, and more than the index.
  have within : (index : Int) < numbers.length := by
    obtain ⟨otherGiven, numbered, _⟩ := id denoted
    cases otherGiven.symm.trans given
    obtain ⟨below, _⟩ := List.getElem?_eq_some_iff.mp found
    have lengths := numbered.length_eq
    omega
  rw [written]
  exact denoted.described.bytes_eq (Layout.signal_mem within) shown

end Encode

/-- Every slot of a G1 point is the location of a fault of some point of its label. -/
theorem G1.exists_refused (label : String) (offset : Int) :
    ∀ slot ∈ Layout.g1 label offset, ∃ point fault,
      G1.ofValue (some label) point = .error (.classified fault) ∧ fault.location? = some (.text slot.name) := by
  -- Nothing stands in the place of the coordinate, and zero in front of it.
  have refused {part : String} {x y : Value} {fault : Fault}
      (first : Point.FirstRefused (some label) [("x", x), ("y", y)] part (.classified fault)) :
      G1.ofValue (some label) (.list [x, y, .int 1]) = .error (.classified fault) :=
    (G1.Places.affine rfl rfl).ofValue_eq_error first
  have fault (part : String) := Point.exists_fault_of_null (some label) part
  simp only [Point.partLabel, Point.labelText, Option.getD_some, String.append_assoc] at fault
  simp only [Layout.g1, List.forall_mem_cons, List.not_mem_nil, false_imp_iff, implies_true, and_true]
  constructor
  -- The first coordinate is refused at once, the second one behind a zero.
  · obtain ⟨fault, unread, located⟩ := fault "x"
    exact ⟨_, fault, @refused _ _ .null _ (.here unread), located⟩
  · obtain ⟨fault, unread, located⟩ := fault "y"
    exact ⟨_, fault, @refused _ (.int 0) _ _ (.later rfl (by decide) (.here unread)), located⟩

/-- Every slot of a G2 point is the location of a fault of some point of its label. -/
theorem G2.exists_refused (label : String) (offset : Int) :
    ∀ slot ∈ Layout.g2 label offset, ∃ point fault,
      G2.ofValue (some label) point = .error (.classified fault) ∧ fault.location? = some (.text slot.name) := by
  -- Nothing stands in the place of the coordinate, and zero in those that are read before it.
  have refused {part : String} {x0 x1 y0 y1 : Value} {fault : Fault}
      (first : Point.FirstRefused (some label) [("x0", x0), ("x1", x1), ("y0", y0), ("y1", y1)] part
        (.classified fault)) :
      G2.ofValue (some label) (.list [.list [x0, x1], .list [y0, y1], .list [.int 1, .int 0]]) =
        .error (.classified fault) :=
    (G2.Places.affine (.intro rfl rfl rfl rfl) rfl rfl).ofValue_eq_error first
  have fault (part : String) := Point.exists_fault_of_null (some label) part
  simp only [Point.partLabel, Point.labelText, Option.getD_some, String.append_assoc] at fault
  simp only [Layout.g2, List.forall_mem_cons, List.not_mem_nil, false_imp_iff, implies_true, and_true]
  have zero {name : String} {rest : List (String × Value)} {fault : Fault} (front : String)
      (behind : Point.FirstRefused (some label) rest name (.classified fault)) :
      Point.FirstRefused (some label) ((front, .int 0) :: rest) name (.classified fault) :=
    .later rfl (by decide) behind
  -- The slots stand in the order of the wire, and the coordinates are refused in the order of reading.
  refine ⟨?_, ?_, ?_, ?_⟩
  · obtain ⟨fault, unread, located⟩ := fault "x1"
    exact ⟨_, fault, @refused _ _ _ .null .null _ (zero "x0" (.here unread)), located⟩
  · obtain ⟨fault, unread, located⟩ := fault "x0"
    exact ⟨_, fault, @refused _ _ .null .null .null _ (.here unread), located⟩
  · obtain ⟨fault, unread, located⟩ := fault "y1"
    exact ⟨_, fault, refused (zero "x0" (zero "x1" (zero "y0" (.here unread)))), located⟩
  · obtain ⟨fault, unread, located⟩ := fault "y0"
    exact ⟨_, fault, @refused _ _ _ _ .null _ (zero "x0" (zero "x1" (.here unread))), located⟩

/-- The G1 point whose coordinates are zero. -/
def G1.zeros : Value :=
  .list [.int 0, .int 0, .int 1]

/-- The G2 point whose coordinates are zero. -/
def G2.zeros : Value :=
  .list [.list [.int 0, .int 0], .list [.int 0, .int 0], .list [.int 1, .int 0]]

/-- A value with the entries of a proof. -/
def Proof.document (a b c : Value) : Value :=
  .object [("pi_a", a), ("pi_b", b), ("pi_c", c)]

/-- A value with the entries of a verification key. -/
def VerificationKey.document (alpha beta gamma delta : Value) (row : List Value) : Value :=
  .object [("vk_alpha_1", alpha), ("vk_beta_2", beta), ("vk_gamma_2", gamma), ("vk_delta_2", delta), ("IC", .list row)]

namespace Encode

/-- A step fails as the G1 point under its key is refused. -/
theorem run_g1_of_refused {source point : Value} {key : String} {failure : Failure}
    (held : source.below? key = some point) (refused : G1.ofValue (some key) point = .error failure) :
    (Step.g1 key).run source = .error failure := by
  rw [Step.run, held, Step.onPart, ended_g1, refused]
  rfl

/-- A step fails as the G2 point under its key is refused. -/
theorem run_g2_of_refused {source point : Value} {key : String} {failure : Failure}
    (held : source.below? key = some point) (refused : G2.ofValue (some key) point = .error failure) :
    (Step.g2 key).run source = .error failure := by
  rw [Step.run, held, Step.onPart, ended_g2, refused]
  rfl

/--
The locations at which points are refused are locations of faults of an encoder that gets to such points.

The encoder ends as its steps do, and in every value of a family it gets to a step that fails as a point of that value
is refused.
-/
theorem locatesAt_of_point {Point : Type} {read : Value → Except Failure Point} {slots : List Slot}
    {encode : Value → Traced Bytes} {steps : Value → List Step}
    (ends : ∀ source, ended (encode source).result = Step.runAll source (steps source))
    (refusals : ∀ slot ∈ slots, ∃ point fault, read point = .error (.classified fault) ∧
      fault.location? = some (.text slot.name))
    (document : Value → Value) (before : List Step) (step : Step)
    (inOrder : ∀ point, before ++ [step] <+: steps (document point))
    (earlier : ∀ point, ∀ other ∈ before, other.run (document point) = .ok ())
    (fails : ∀ point failure, read point = .error failure → step.run (document point) = .error failure) :
    ∀ slot ∈ slots, LocatesAt encode slot.name := by
  -- For each slot there is a point that is refused there, and the value with that point in it is refused in the same
  -- words.
  intro slot member
  obtain ⟨point, fault, refused, located⟩ := refusals slot member
  have first : Step.FirstFailure (document point) (steps (document point)) before step (.classified fault) :=
    ⟨inOrder point, earlier point, fails point _ refused⟩
  exact ⟨document point, fault, result_of_firstFailure (ends _) first, located⟩

/-- Every slot of a proof is the location of some fault. -/
theorem locatesAt_proof : ∀ slot ∈ Layout.proof, LocatesAt proofBytes slot.name := by
  simp only [Layout.proof, List.forall_mem_append]
  -- The points in front are zero, and those behind are not looked at.
  refine ⟨⟨?_, ?_⟩, ?_⟩
  · refine locatesAt_of_point ended_proofBytes (G1.exists_refused _ _)
      (fun point => Proof.document point .null .null) [.find "pi_a"] (.g1 "pi_a") (fun _ => ⟨_, rfl⟩) ?_ ?_
    · exact fun _ => Step.runAll_eq_ok_iff.mp rfl
    · exact fun _ _ => run_g1_of_refused rfl
  · refine locatesAt_of_point ended_proofBytes (G2.exists_refused _ _)
      (fun point => Proof.document G1.zeros point .null) [.find "pi_a", .g1 "pi_a", .find "pi_b"] (.g2 "pi_b")
      (fun _ => ⟨_, rfl⟩) ?_ ?_
    · exact fun _ => Step.runAll_eq_ok_iff.mp rfl
    · exact fun _ _ => run_g2_of_refused rfl
  · refine locatesAt_of_point ended_proofBytes (G1.exists_refused _ _)
      (fun point => Proof.document G1.zeros G2.zeros point)
      [.find "pi_a", .g1 "pi_a", .find "pi_b", .g2 "pi_b", .find "pi_c"] (.g1 "pi_c") (fun _ => ⟨[], rfl⟩) ?_ ?_
    · exact fun _ => Step.runAll_eq_ok_iff.mp rfl
    · exact fun _ _ => run_g1_of_refused rfl

/-- Every slot in front of the count of a key is the location of some fault. -/
theorem locatesAt_fixed :
    ∀ slot ∈ Layout.g1 "vk_alpha_1" 0 ++ Layout.g2 "vk_beta_2" Layout.g1Size ++
      Layout.g2 "vk_gamma_2" (Layout.g1Size + Layout.g2Size) ++
      Layout.g2 "vk_delta_2" (Layout.g1Size + 2 * Layout.g2Size), LocatesAt keyBytes slot.name := by
  simp only [List.forall_mem_append]
  -- The points in front are zero, and those behind are not looked at.
  refine ⟨⟨⟨?_, ?_⟩, ?_⟩, ?_⟩
  · refine locatesAt_of_point ended_keyBytes (G1.exists_refused _ _)
      (fun point => VerificationKey.document point .null .null .null []) [.find "vk_alpha_1"] (.g1 "vk_alpha_1")
      (fun _ => ⟨_, rfl⟩) ?_ ?_
    · exact fun _ => Step.runAll_eq_ok_iff.mp rfl
    · exact fun _ _ => run_g1_of_refused rfl
  · refine locatesAt_of_point ended_keyBytes (G2.exists_refused _ _)
      (fun point => VerificationKey.document G1.zeros point .null .null [])
      [.find "vk_alpha_1", .g1 "vk_alpha_1", .find "vk_beta_2"] (.g2 "vk_beta_2") (fun _ => ⟨_, rfl⟩) ?_ ?_
    · exact fun _ => Step.runAll_eq_ok_iff.mp rfl
    · exact fun _ _ => run_g2_of_refused rfl
  · refine locatesAt_of_point ended_keyBytes (G2.exists_refused _ _)
      (fun point => VerificationKey.document G1.zeros G2.zeros point .null [])
      [.find "vk_alpha_1", .g1 "vk_alpha_1", .find "vk_beta_2", .g2 "vk_beta_2", .find "vk_gamma_2"]
      (.g2 "vk_gamma_2") (fun _ => ⟨_, rfl⟩) ?_ ?_
    · exact fun _ => Step.runAll_eq_ok_iff.mp rfl
    · exact fun _ _ => run_g2_of_refused rfl
  · refine locatesAt_of_point ended_keyBytes (G2.exists_refused _ _)
      (fun point => VerificationKey.document G1.zeros G2.zeros G2.zeros point [])
      [.find "vk_alpha_1", .g1 "vk_alpha_1", .find "vk_beta_2", .g2 "vk_beta_2", .find "vk_gamma_2",
        .g2 "vk_gamma_2", .find "vk_delta_2"] (.g2 "vk_delta_2") (fun _ => ⟨_, rfl⟩) ?_ ?_
    · exact fun _ => Step.runAll_eq_ok_iff.mp rfl
    · exact fun _ _ => run_g2_of_refused rfl

/-- A key whose points are zero but for the last one of its row. -/
def lastPointDocument (index : Nat) (last : Value) : Value :=
  VerificationKey.document G1.zeros G2.zeros G2.zeros G2.zeros (List.replicate index G1.zeros ++ [last])

/-- The row of this key has its last point behind as many zeros as the index tells. -/
theorem rowItems_lastPointDocument (index : Nat) (last : Value) :
    (lastPointDocument index last).rowItems? = some (List.replicate index G1.zeros ++ [last]) :=
  rfl

/-- The last step of this key reads the last point of its row. -/
theorem keySteps_lastPointDocument (index : Nat) (last : Value) :
    keySteps (lastPointDocument index last) =
      fixedKeySteps ++ (List.range index).map .rowPoint ++ [.rowPoint index] := by
  rw [keySteps, rowSteps, rowItems_lastPointDocument, Option.getD_some, List.length_append, List.length_replicate,
    List.length_singleton, List.range_succ, List.map_append, List.append_assoc, List.map_singleton]

/-- A row that fits the count is read up to its last point. -/
theorem run_lastPointDocument_of_front {index : Nat} (few : index + 1 < Word.countBound) (last : Value) :
    ∀ step ∈ fixedKeySteps ++ (List.range index).map .rowPoint, step.run (lastPointDocument index last) = .ok () := by
  rw [List.forall_mem_append, List.forall_mem_map]
  constructor
  · -- Only the count depends on the length of the row.
    have counted : Step.count.run (lastPointDocument index last) = .ok () := by
      rw [Step.run, rowItems_lastPointDocument, Step.onPart, Word.fitCount, dif_pos (by simpa using few)]
      rfl
    simp only [fixedKeySteps, List.forall_mem_cons, List.not_mem_nil, false_imp_iff, implies_true, and_true]
    exact ⟨rfl, rfl, rfl, rfl, rfl, rfl, rfl, rfl, rfl, rfl, counted⟩
  · intro place within
    have zero : (List.replicate index G1.zeros ++ [last])[place]? = some G1.zeros := by
      rw [List.getElem?_append_left (by simpa using List.mem_range.mp within), List.getElem?_replicate,
        if_pos (List.mem_range.mp within)]
    rw [Step.run, rowItems_lastPointDocument, Option.bind_some, zero]
    rfl

/-- The last step of this key fails as its last point is refused. -/
theorem run_lastPointDocument_of_refused {index : Nat} {last : Value} {failure : Failure}
    (refused : G1.ofValue (some (VerificationKey.icLabel index)) last = .error failure) :
    (Step.rowPoint index).run (lastPointDocument index last) = .error failure := by
  -- The last point stands at the index of its own step.
  have there : (List.replicate index G1.zeros ++ [last])[index]? = some last := by simp
  rw [Step.run, rowItems_lastPointDocument, Option.bind_some, there, Step.onPart, ended_g1, refused]
  rfl

/-- Every slot of a key whose row fits the count is the location of some fault, that of the count aside. -/
theorem locatesAt_key {count : Int} (few : count < Word.countBound) :
    ∀ slot ∈ Layout.key count, slot.name ≠ "IC.count" → LocatesAt keyBytes slot.name := by
  rw [Layout.key, List.forall_mem_append, List.forall_mem_cons]
  refine ⟨fun slot member _ => locatesAt_fixed slot member, fun named => absurd rfl named, fun slot member _ => ?_⟩
  -- A slot of the row is that of the last point of some key, which need not be as long as this one.
  obtain ⟨index, within, member⟩ := List.mem_flatMap.mp member
  have below := List.mem_range.mp within
  refine locatesAt_of_point ended_keyBytes (G1.exists_refused _ _) (lastPointDocument index)
    (fixedKeySteps ++ (List.range index).map .rowPoint) (.rowPoint index) ?_ ?_ ?_ slot member
  · intro last
    rw [keySteps_lastPointDocument]
  · exact run_lastPointDocument_of_front (by omega)
  · exact fun last failure refused => run_lastPointDocument_of_refused refused

/-- Every signal is the location of some fault, if its index has a text. -/
theorem exists_fault_of_signal (index : Nat) :
    ∃ source fault, (publicBytes source).result = .error (.classified fault) ∧
      fault.location? = Layout.signalLocation? index := by
  -- Nothing stands in the place of the signal, and zeros in front of it.
  have first : PublicInputs.FirstRefused (List.replicate index (.int 0) ++ [.null]) index
      (Cause.unsupportedElement "NoneType").raise := by
    refine ⟨fun item member => ?_, .null, by simp, rfl⟩
    rw [List.take_left' List.length_replicate] at member
    obtain rfl := List.eq_of_mem_replicate member
    exact ⟨⟨0, by decide⟩, rfl⟩
  have writable : (Value.list (List.replicate index (.int 0) ++ [.null])).Writable := by
    refine .list fun item member => ?_
    rcases List.mem_append.mp member with front | last
    · rw [List.eq_of_mem_replicate front]
      exact .int (Nat.lt_of_lt_of_le (by decide) Text.fieldBound_le_decimalBound)
    · rw [List.mem_singleton.mp last]
      exact .null
  obtain ⟨fault, _, unplaced, failed⟩ := first.exists_fault writable rfl
  exact ⟨_, _, failed, Layout.location?_atSignal unplaced index⟩

end Encode

/--
Faults of numbers are located at the slots of the layouts.

Where an encoder stops at a coordinate or at a signal, the fault is located at the slot of that number, the only one of
its name in the layout, and into this slot the encoder writes the number whenever it returns. A layout of a key has the
slot whatever the length of the row, as long as it is that of the row of the value, if there is one. Conversely, every
slot is the location of some fault, except for the counts; the row of a key has to fit the count for that.
-/
theorem faults_located_at_slots (source : Value) (writable : source.Writable) :
    (∀ step label part failure, Encode.StopsAt source Encode.proofSteps step label part failure →
      ∃ (fault : Fault) (slot : Slot), (Encode.proofBytes source).result = .error (.classified fault) ∧
        fault.location? = some (.text slot.name) ∧ slot.AloneIn Layout.proof ∧
        slot.Receives Encode.proofBytes step label part) ∧
      (∀ step label part failure, Encode.StopsAt source (Encode.keySteps source) step label part failure →
        ∃ (fault : Fault) (slot : Slot), (Encode.keyBytes source).result = .error (.classified fault) ∧
          fault.location? = some (.text slot.name) ∧
          (∀ count : Int, (∀ items, source.rowItems? = some items → count = items.length) →
            slot.AloneIn (Layout.key count)) ∧
          slot.Receives Encode.keyBytes step label part) ∧
      (∀ items index own, source.items? = some items → PublicInputs.FirstRefused items index own →
        ∃ fault : Fault, (Encode.publicBytes source).result = .error (.classified fault) ∧
          fault.location? = Layout.signalLocation? index ∧
          (Layout.signal index).AloneIn (Layout.publicInputs items.length) ∧
          (Layout.signal index).ReceivesSignal index) ∧
      (∀ slot ∈ Layout.proof, Encode.LocatesAt Encode.proofBytes slot.name) ∧
      (∀ count : Int, count < Word.countBound → ∀ slot ∈ Layout.key count, slot.name ≠ "IC.count" →
        Encode.LocatesAt Encode.keyBytes slot.name) ∧
      ∀ count : Int, ∀ slot ∈ Layout.publicInputs count, slot.name ≠ "count" →
        ∃ index failing fault, slot = Layout.signal index ∧
          (Encode.publicBytes failing).result = .error (.classified fault) ∧
          fault.location? = Layout.signalLocation? index := by
  refine ⟨fun step label part failure stops => ?_, fun step label part failure stops => ?_,
    fun items index own given first => ?_, Encode.locatesAt_proof, fun count few => Encode.locatesAt_key few,
    fun count slot member named => ?_⟩
  · -- The fault is located at the label of the coordinate, which is the name of a slot.
    obtain ⟨fault, rfl, located⟩ := stops.exists_fault writable
    obtain ⟨places, item, reads, place, _⟩ := stops.exists_place
    obtain ⟨slot, member, named⟩ := reads.exists_proof_slot stops.mem place
    exact ⟨fault, slot, stops.result_eq (Encode.ended_proofBytes source), by rw [located, named],
      Layout.aloneIn_of_nodup Layout.partitions_proof.named member, Encode.receives_proof stops.mem member named⟩
  · obtain ⟨fault, rfl, located⟩ := stops.exists_fault writable
    obtain ⟨places, item, reads, place, _⟩ := stops.exists_place
    have taken := Encode.fixed_or_rowPoint stops.mem
    -- The point of the step lies within every row that is that of the value.
    have counted (count : Int) (same : ∀ items, source.rowItems? = some items → count = items.length) :
        ∀ index, step = .rowPoint index → index < count := by
      rintro index rfl
      exact Encode.index_lt_of_rowPoint stops.mem same
    obtain ⟨slot, member, named⟩ := reads.exists_key_slot taken place
      (counted (source.rowItems?.getD []).length fun items given => by rw [given, Option.getD_some])
    refine ⟨fault, slot, stops.result_eq (Encode.ended_keyBytes source), by rw [located, named], fun count same => ?_,
      Encode.receives_key taken member named⟩
    -- The layouts of all these rows have the same slot of this name.
    obtain ⟨other, within, otherNamed⟩ := reads.exists_key_slot taken place (counted count same)
    obtain rfl := Layout.key_slot_unique member within (otherNamed.trans named.symm)
    exact Layout.aloneIn_of_nodup (Layout.partitions_key count).named within
  · -- The signal that is refused is one of the items, so that its slot is there.
    obtain ⟨fault, _, unplaced, failed⟩ := first.exists_fault writable given
    obtain ⟨item, there, _⟩ := first.refused
    obtain ⟨within, _⟩ := List.getElem?_eq_some_iff.mp there
    have member := Layout.signal_mem (Int.ofNat_lt.mpr within)
    exact ⟨_, failed, Layout.location?_atSignal unplaced index,
      Layout.aloneIn_of_nodup (Layout.partitions_publicInputs _).named member, Encode.receivesSignal_signal index⟩
  · -- Behind the count there are only signals.
    rw [Layout.publicInputs, List.mem_cons] at member
    rcases member with rfl | member
    · exact absurd rfl named
    · obtain ⟨index, _, rfl⟩ := List.mem_map.mp member
      obtain ⟨failing, fault, failed, located⟩ := Encode.exists_fault_of_signal index
      exact ⟨index, failing, fault, rfl, failed, located⟩

/-- A proof whose second point has a first coordinate that is too large, and nothing in the place of the third point. -/
def overflowingProof : Value :=
  Proof.document G1.zeros overflowingPoint .null

/-- The numbers of this proof are short. -/
theorem overflowingProof_writable : overflowingProof.Writable := by
  -- Zero and one are short, and so are the numbers of the second point.
  have zero : (Value.int 0).Writable := .int (Nat.lt_of_lt_of_le (by decide) Text.fieldBound_le_decimalBound)
  have one : (Value.int 1).Writable := .int (Nat.lt_of_lt_of_le (by decide) Text.fieldBound_le_decimalBound)
  have zeros : G1.zeros.Writable := .list (by simpa using ⟨zero, one⟩)
  exact .object (List.forall_mem_cons.mpr ⟨zeros, List.forall_mem_cons.mpr
    ⟨overflowingPoint_writable, List.forall_mem_singleton.mpr .null⟩⟩)

/-- The encoder stops at this coordinate. -/
theorem overflowingProof_stops : Encode.StopsAt overflowingProof Encode.proofSteps (.g2 "pi_b") "pi_b" "x0"
    (.classified (Fault.outOfRange "pi_b.x0" baseModulus)) := by
  -- The first point is read, and so is everything of the second one that comes before its coordinates.
  have rows : G2.Rows overflowingPoint [.int baseModulus, .null] [.int 1, .int 2] [.int 1, .int 0] :=
    .intro rfl rfl rfl rfl
  have writable : (Value.int baseModulus).Writable :=
    rows.writable_coordinates overflowingPoint_writable ("x0", _) List.mem_cons_self
  refine ⟨⟨[.find "pi_a", .g1 "pi_a", .find "pi_b"], ⟨_, rfl⟩, Encode.Step.runAll_eq_ok_iff.mp rfl⟩, _,
    .g2 rfl (.affine rows rfl rfl), .here ?_⟩
  exact Point.coordinate_of_tooLarge writable rfl (Nat.le_refl _)

/-- The fault is located at the slot of the coordinate, which holds the word of that coordinate in another proof. -/
theorem faults_located_at_slots_overflowing :
    overflowingProof.Writable ∧ ∃ fault : Fault,
      (Encode.proofBytes overflowingProof).result = .error (.classified fault) ∧
      fault.location? = some (.text "pi_b.x0") ∧
      Slot.bytes ⟨96, 32, "pi_b.x0"⟩ sharedWords.bytes = fieldWord 7 := by
  obtain ⟨fault, slot, failed, located, alone, receives⟩ :=
    (faults_located_at_slots overflowingProof overflowingProof_writable).1 _ _ _ _ overflowingProof_stops
  -- The failure is the one of the coordinate, so its location is known.
  obtain rfl : fault = Fault.outOfRange "pi_b.x0" baseModulus := by
    have stopped := overflowingProof_stops.result_eq (Encode.ended_proofBytes overflowingProof)
    rw [failed] at stopped
    cases stopped
    rfl
  have named : "pi_b.x0" = slot.name := Value.text.inj (Option.some.inj located)
  obtain rfl := (alone ⟨96, 32, "pi_b.x0"⟩).mp ⟨by decide, named⟩
  have encoded := Encode.proofBytes_eq_ok_iff.mpr ⟨sharedWords, mixedProof_denotes, rfl⟩
  exact ⟨overflowingProof_writable, _, failed, located, receives mixedProof _ _ (.text "007") 7 encoded
    (.g2 rfl (.affine (.intro rfl rfl rfl rfl) rfl rfl)) List.mem_cons_self rfl⟩

end ProofWire
