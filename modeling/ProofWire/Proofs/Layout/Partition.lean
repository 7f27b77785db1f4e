import ProofWire.Proofs.Layout.Description

/-! Partitions: the slots of an artifact tile its bytes under different names, so that every offset is located in the
one slot that holds it. -/

namespace ProofWire

/-- A slot that is moved by a distance. -/
def Slot.shift (slot : Slot) (distance : Int) : Slot :=
  { slot with offset := slot.offset + distance }

namespace Layout

/-- Slots tile the offsets from a start to a stop: the first begins at the start, every other one where the one before
it ends, and the last ends at the stop. None is empty. -/
inductive Tiles : Int → List Slot → Int → Prop where
  | done (offset : Int) : Tiles offset [] offset
  | slot {slot : Slot} {rest : List Slot} {stop : Int} (filled : 0 < slot.size)
    (behind : Tiles (slot.offset + slot.size) rest stop) : Tiles slot.offset (slot :: rest) stop

/-- The slots of components that have words tile what the words take. -/
theorem tiles_slots (start : Nat) {components : List Component}
    (filled : ∀ component ∈ components, 0 < component.width) :
    Tiles start (Component.slots start components) (start + (components.map Component.width).sum : Nat) := by
  -- Every component moves the start by its width.
  induction components generalizing start with
  | nil => exact .done _
  | cons component rest ih =>
    rw [List.forall_mem_cons] at filled
    have behind := ih (start + component.width) filled.2
    rw [Nat.add_assoc, Nat.cast_add] at behind
    rw [Component.slots, List.map_cons, List.sum_cons]
    exact @Tiles.slot ⟨start, component.width, component.name⟩ _ _ (Int.natCast_pos.mpr filled.1) behind

variable {start stop : Int} {slots : List Slot}

/-- Tiling slots lie between the start and the stop. -/
theorem Tiles.bounds (tiles : Tiles start slots stop) :
    start ≤ stop ∧ ∀ slot ∈ slots, start ≤ slot.offset ∧ slot.offset + slot.size ≤ stop := by
  -- Each slot begins where the one before it stops, and the rest lies behind it.
  induction tiles with
  | done offset => exact ⟨Int.le_refl _, List.forall_mem_nil _⟩
  | slot filled behind ih =>
    obtain ⟨onward, within⟩ := ih
    refine ⟨by omega, List.forall_mem_cons.mpr ⟨⟨Int.le_refl _, onward⟩, fun later member => ?_⟩⟩
    obtain ⟨low, high⟩ := within later member
    exact ⟨by omega, high⟩

/-- Of two tiling slots the later one begins behind the earlier one. -/
theorem Tiles.pairwise (tiles : Tiles start slots stop) :
    slots.Pairwise fun earlier later => earlier.offset + earlier.size ≤ later.offset := by
  -- Whatever comes later begins where the first slot stops, or behind that.
  induction tiles with
  | done => exact .nil
  | slot filled behind ih => exact .cons (fun later member => (behind.bounds.2 later member).1) ih

/-- Every offset between the start and the stop is held by one of the slots, and by no other. -/
theorem Tiles.exists_holds (tiles : Tiles start slots stop) {offset : Int} (low : start ≤ offset)
    (high : offset < stop) : ∃ slot ∈ slots, ∀ other ∈ slots, other.holds offset = true ↔ other = slot := by
  -- Either the first slot holds the offset, and all others begin behind it, or the offset lies behind that slot.
  induction tiles with
  | done => omega
  | @slot first rest stop filled behind ih =>
    by_cases inside : offset < first.offset + first.size
    · refine ⟨first, List.mem_cons_self, List.forall_mem_cons.mpr ⟨?_, fun other member => ?_⟩⟩
      · simp [Slot.holds_iff, low, inside]
      · have begun := (behind.bounds.2 other member).1
        rw [Slot.holds_iff]
        constructor
        · omega
        · rintro rfl
          omega
    · obtain ⟨slot, member, exact⟩ := ih (Int.not_lt.mp inside) high
      refine ⟨slot, List.mem_cons_of_mem _ member, List.forall_mem_cons.mpr ⟨?_, exact⟩⟩
      have begun := (behind.bounds.2 slot member).1
      rw [Slot.holds_iff]
      constructor
      · omega
      · rintro rfl
        omega

/-- An offset is located in the slot that alone holds it. -/
theorem locate_of_holds {slot : Slot} {offset : Int} (member : slot ∈ slots)
    (exact : ∀ other ∈ slots, other.holds offset = true ↔ other = slot) : locate slots offset = some slot.name := by
  -- The search finds a slot that holds the offset, and there is only one.
  have held : slot.holds offset = true := (exact slot member).mpr rfl
  cases found : slots.find? (·.holds offset) with
  | none => exact absurd held (List.find?_eq_none.mp found slot member)
  | some other =>
    have holds : other.holds offset = true := by simpa using List.find?_some found
    obtain rfl := (exact other (List.mem_of_find?_eq_some found)).mp holds
    rw [locate, found, Option.map_some]

/-- An offset that no slot holds is not located. -/
theorem locate_eq_none {offset : Int} (unheld : ∀ slot ∈ slots, ¬ slot.holds offset = true) :
    locate slots offset = none := by
  rw [locate, List.find?_eq_none.mpr unheld, Option.map_none]

/-- An offset outside of what the slots tile is not located. -/
theorem Tiles.locate_outside (tiles : Tiles start slots stop) {offset : Int}
    (outside : offset < start ∨ stop ≤ offset) : locate slots offset = none := by
  -- Every slot lies between the start and the stop.
  refine locate_eq_none fun slot member => ?_
  obtain ⟨low, high⟩ := tiles.bounds.2 slot member
  rw [Slot.holds_iff]
  omega

/-- Offsets are located under the name of a slot exactly when it holds them, if all names are different. -/
theorem Tiles.locate_eq_name_iff (tiles : Tiles start slots stop) (names : (slots.map Slot.name).Nodup) {slot : Slot}
    (member : slot ∈ slots) {offset : Int} : locate slots offset = some slot.name ↔ slot.holds offset = true := by
  by_cases inside : start ≤ offset ∧ offset < stop
  · obtain ⟨holder, held, exact⟩ := tiles.exists_holds inside.1 inside.2
    rw [locate_of_holds held exact, exact slot member, Option.some_inj, eq_comm (a := slot)]
    -- The holder has the name of the slot only if it is the slot.
    exact ⟨List.inj_on_of_nodup_map names held member, congrArg Slot.name⟩
  · have outside : offset < start ∨ stop ≤ offset := by omega
    obtain ⟨low, high⟩ := tiles.bounds.2 slot member
    rw [tiles.locate_outside outside, Slot.holds_iff]
    constructor
    · nofun
    · omega

/-- Slots partition the bytes of an artifact: they tile it in order, without overlap and under different names. Every
offset within is located in the one slot that holds it, no other offset is located, and the offsets that are located
under a name are as many as the bytes of its slot. -/
structure Partitions (slots : List Slot) (total : Nat) : Prop where
  tiles : Tiles 0 slots total
  apart : slots.Pairwise fun earlier later => earlier.offset + earlier.size ≤ later.offset
  named : (slots.map Slot.name).Nodup
  inside : ∀ offset : Int, 0 ≤ offset → offset < total → ∃ slot ∈ slots,
    (∀ other ∈ slots, other.holds offset = true ↔ other = slot) ∧ locate slots offset = some slot.name
  outside : ∀ offset : Int, offset < 0 ∨ total ≤ offset → locate slots offset = none
  counted : ∀ slot ∈ slots, {offset : Int | locate slots offset = some slot.name}.encard = slot.size.toNat

/-- Tiling slots of different names partition what they tile. -/
theorem Tiles.partitions {total : Nat} (tiles : Tiles 0 slots total) (names : (slots.map Slot.name).Nodup) :
    Partitions slots total where
  tiles := tiles
  apart := tiles.pairwise
  named := names
  inside := by
    intro offset low high
    obtain ⟨slot, member, exact⟩ := tiles.exists_holds low high
    exact ⟨slot, member, exact, locate_of_holds member exact⟩
  outside := fun _ => tiles.locate_outside
  counted := by
    intro slot member
    -- The offsets of a slot are those from its first byte up to before its end.
    have offsets : {offset : Int | locate slots offset = some slot.name} =
        (Finset.Ico slot.offset (slot.offset + slot.size) : Finset Int) := by
      ext offset
      rw [Finset.coe_Ico, Set.mem_Ico, ← Slot.holds_iff]
      exact tiles.locate_eq_name_iff names member
    rw [offsets, Set.encard_coe_eq_coe_finsetCard, Int.card_Ico, add_sub_cancel_left]

/-- The slots of components that have words and different names partition their wire. -/
theorem partitions_slots {components : List Component} (filled : ∀ component ∈ components, 0 < component.width)
    (names : (components.map Component.name).Nodup) :
    Partitions (Component.slots 0 components) (Component.wire components).length := by
  -- Slots with a running offset tile the wire by their making.
  have tiles := tiles_slots 0 filled
  rw [Nat.zero_add, ← Component.length_wire] at tiles
  exact tiles.partitions (by rwa [Component.names_slots])

end Layout

/-- Every number of a G1 point has a word. -/
theorem G1Words.width_pos (label : String) (words : G1Words) :
    ∀ component ∈ words.components label, 0 < component.width := by
  simp [components, Word.fieldSize]

/-- Every number of a G2 point has a word. -/
theorem G2Words.width_pos (label : String) (words : G2Words) :
    ∀ component ∈ words.components label, 0 < component.width := by
  simp [components, Word.fieldSize]

/-- The slots of a proof partition its wire. -/
theorem ProofWords.partitions (words : ProofWords) : Layout.Partitions Layout.proof words.bytes.length := by
  -- No coordinate is without a word.
  have filled : ∀ component ∈ words.components, 0 < component.width := by
    simp only [components, List.forall_mem_append]
    exact ⟨⟨G1Words.width_pos _ _, G2Words.width_pos _ _⟩, G1Words.width_pos _ _⟩
  have partitions := Layout.partitions_slots filled words.components_names_nodup
  rwa [words.slots_components, words.wire_components] at partitions

/-- The slots of public inputs partition their wire. -/
theorem PublicInputs.partitions (numbers : List Nat) :
    Layout.Partitions (Layout.publicInputs numbers.length) (wire numbers).length := by
  -- The count and each signal have words.
  have filled : ∀ component ∈ components numbers, 0 < component.width := by
    rw [components, List.forall_mem_cons]
    refine ⟨Nat.succ_pos _, fun component member => ?_⟩
    obtain ⟨_, _, _, rfl⟩ := mem_signalComponents_iff.mp member
    exact Nat.succ_pos _
  have partitions := Layout.partitions_slots filled (components_names_nodup numbers)
  rwa [slots_components, wire_components] at partitions

/-- The slots of a verification key partition its wire. -/
theorem KeyWords.partitions (words : KeyWords) :
    Layout.Partitions (Layout.key words.ic.length) words.bytes.length := by
  -- No coordinate is without a word, and the count has its own.
  have filled : ∀ component ∈ words.components, 0 < component.width := by
    simp only [components, fixedComponents, List.forall_mem_append, List.forall_mem_cons]
    refine ⟨⟨⟨⟨G1Words.width_pos _ _, G2Words.width_pos _ _⟩, G2Words.width_pos _ _⟩, G2Words.width_pos _ _⟩,
      Nat.succ_pos _, fun component member => ?_⟩
    obtain ⟨_, _, _, shown⟩ := mem_rowComponents_iff.mp member
    exact G1Words.width_pos _ _ component shown
  have partitions := Layout.partitions_slots filled words.components_names_nodup
  rwa [words.slots_components, words.wire_components] at partitions

namespace Layout

/-- The layout of proofs partitions 256 bytes. -/
theorem partitions_proof : Partitions Layout.proof 256 := by
  have partitions := ProofWords.partitions ⟨⟨0, 0⟩, ⟨0, 0, 0, 0⟩, ⟨0, 0⟩⟩
  rwa [ProofWords.length_bytes] at partitions

/-- The layout of public inputs partitions the count and a word for each of them. -/
theorem partitions_publicInputs (count : Int) : Partitions (publicInputs count) (4 + 32 * count.toNat) := by
  -- The numbers do not matter, and the layout looks at the count as a natural number.
  have partitions := PublicInputs.partitions (List.replicate count.toNat 0)
  rw [PublicInputs.length_wire, List.length_replicate] at partitions
  simpa only [publicInputs, Int.toNat_natCast, Word.countSize, Word.fieldSize] using partitions

/-- The layout of a verification key partitions the fixed points, the count and two words for each point of the row. -/
theorem partitions_key (count : Int) : Partitions (key count) (452 + 64 * count.toNat) := by
  -- The layout does not depend on the numbers, so that a key of zeros with as many points serves.
  have partitions := KeyWords.partitions
    ⟨⟨0, 0⟩, ⟨0, 0, 0, 0⟩, ⟨0, 0, 0, 0⟩, ⟨0, 0, 0, 0⟩, List.replicate count.toNat ⟨0, 0⟩⟩
  rw [KeyWords.length_bytes, List.length_replicate] at partitions
  simpa only [key, Int.toNat_natCast] using partitions

end Layout

/--
Layouts partition their artifacts, whatever the count.

Their slots tile the bytes of a proof, of public inputs and of a verification key from the first to the last, under
different names, and the slots of a point from an offset on are those from zero on, moved by the offset.
-/
theorem layouts_partition :
    Layout.Partitions Layout.proof 256 ∧
      (∀ count : Int, Layout.Partitions (Layout.publicInputs count) (4 + 32 * count.toNat)) ∧
      (∀ count : Int, Layout.Partitions (Layout.key count) (452 + 64 * count.toNat)) ∧
      ∀ (label : String) (offset : Int),
        Layout.g1 label offset = (Layout.g1 label 0).map (·.shift offset) ∧
          Layout.g2 label offset = (Layout.g2 label 0).map (·.shift offset) := by
  refine ⟨Layout.partitions_proof, Layout.partitions_publicInputs, Layout.partitions_key, fun label offset => ⟨?_, ?_⟩⟩
  -- Only the offsets of the slots depend on where the point begins.
  · simp [Layout.g1, Slot.shift, Int.add_comm]
  · simp [Layout.g2, Slot.shift, Int.add_comm]

/-- Offsets on both sides of each end of a signal. -/
example : [-1, 3, 4, 35, 36, 67, 68].map (Layout.locate (Layout.publicInputs 2)) =
    [none, some "count", some "public[0]", some "public[0]", some "public[1]", some "public[1]", none] := by
  decide

end ProofWire
