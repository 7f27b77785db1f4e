import ProofWire.Proofs.Artifact.ProofRoundTrip
import ProofWire.Proofs.Artifact.PublicRoundTrip
import ProofWire.Proofs.Artifact.Steps
import ProofWire.Proofs.Layout.Name

/-! Perturbation: a change of one byte of an artifact shows in the number that the layout names for that byte, and in
no other. -/

namespace ProofWire

namespace Component

/-- Two rows of components differ in the number of one component alone, which has a name. -/
inductive AloneAt (name : String) : List Component → List Component → Prop where
  | here {width left right : Nat} {rest : List Component} (differ : left ≠ right) :
    AloneAt name (⟨name, width, left⟩ :: rest) (⟨name, width, right⟩ :: rest)
  | later (shared : Component) {left right : List Component} (behind : AloneAt name left right) :
    AloneAt name (shared :: left) (shared :: right)

/-- The component that differs alone has a place, and the numbers differ in that place and in no other. -/
theorem AloneAt.exists_place {name : String} {left right : List Component} (alone : AloneAt name left right) :
    ∃ place, (left.map Component.name)[place]? = some name ∧
      ∀ other : Nat, (left.map number)[other]? ≠ (right.map number)[other]? ↔ other = place := by
  -- Every shared component moves the place by one.
  induction alone with
  | here differ =>
    refine ⟨0, rfl, fun other => ?_⟩
    cases other with
    | zero => simpa using differ
    | succ other => simp
  | later shared _ ih =>
    obtain ⟨place, named, exact⟩ := ih
    refine ⟨place + 1, named, fun other => ?_⟩
    cases other with
    | zero => simp
    | succ other => simpa using exact other

/-- A component that both rows share is not the one that differs. -/
theorem AloneAt.of_shared {name : String} {shared : Component} {left right : List Component}
    (alone : AloneAt name (shared :: left) (shared :: right)) : AloneAt name left right := by
  -- The rows cannot differ in what they share.
  cases alone with
  | here differ => exact absurd rfl differ
  | later _ behind => exact behind

/-- Rows of the same names and widths whose components fit have different wires. -/
theorem wire_injOn {left right : List Component}
    (aligned : left.map (fun component => (component.name, component.width)) =
      right.map fun component => (component.name, component.width))
    (leftFits : ∀ component ∈ left, component.Fits) (rightFits : ∀ component ∈ right, component.Fits)
    (same : wire left = wire right) : left = right := by
  -- Rows that part have wires that part.
  rcases eq_or_partAt aligned with equal | ⟨name, parted⟩
  · exact equal
  · obtain ⟨place, found, _⟩ := parted.locate leftFits rightFits 0
    rw [firstDifference_eq_none_iff.mpr same] at found
    cases found

/--
A change of one byte of a wire is a change of one component.

When the changed bytes are the wire of a row with the same names and widths, the two rows differ in the component in
whose slot the byte lies, and in no other.
-/
theorem exists_aloneAt {content : Bytes} {left right : List Component}
    (aligned : left.map (fun component => (component.name, component.width)) =
      right.map fun component => (component.name, component.width))
    (leftFits : ∀ component ∈ left, component.Fits) (rightFits : ∀ component ∈ right, component.Fits)
    {place : Nat} {byte : UInt8} (inside : place < content.length) (new : content[place]? ≠ some byte)
    (given : wire left = content) (changed : wire right = content.set place byte) (start : Nat) :
    ∃ name, Layout.locate (slots start left) (start + place : Nat) = some name ∧ AloneAt name left right := by
  -- The byte lies in the word of the first component, or behind it.
  induction left generalizing content right place start with
  | nil =>
    subst given
    exact absurd inside (Nat.not_lt_zero _)
  | cons first rest ih =>
    cases right with
    | nil => simp at aligned
    | cons second tail =>
      obtain ⟨name, width, number⟩ := first
      obtain ⟨otherName, otherWidth, other⟩ := second
      simp only [List.map_cons, List.cons.injEq, Prod.mk.injEq] at aligned
      obtain ⟨⟨rfl, rfl⟩, aligned⟩ := aligned
      rw [List.forall_mem_cons] at leftFits rightFits
      -- Both words have the width of the component, so that the rests begin at the same byte.
      have leftSplit : wire (⟨name, width, number⟩ :: rest) = Word.bytes width number ++ wire rest := rfl
      have rightSplit : wire (⟨name, width, other⟩ :: tail) = Word.bytes width other ++ wire tail := rfl
      have size (number : Nat) : (Word.bytes width number).length = width := Word.length_bytes width number
      rw [leftSplit] at given
      rw [rightSplit] at changed
      subst given
      by_cases front : place < width
      · -- The words behind stay, and with them their numbers.
        rw [List.set_append_left _ _ (by rwa [size])] at changed
        obtain ⟨word, behind⟩ := List.append_inj changed (by rw [List.length_set, size, size])
        obtain rfl := wire_injOn aligned leftFits.2 rightFits.2 behind.symm
        have held : Slot.holds ⟨start, width, name⟩ (start + place : Nat) = true := by
          simp only [Slot.holds_iff]
          omega
        refine ⟨name, Layout.locate_here held _, .here ?_⟩
        rintro rfl
        -- A word with another byte has another number.
        rw [List.getElem?_append_left (by rwa [size])] at new
        exact Word.value_set_ne (by rwa [size]) new (congrArg Word.value word).symm
      · -- The word in front stays, and the byte counts from its end.
        have behind : width ≤ place := Nat.not_lt.mp front
        rw [List.set_append_right _ _ (by rwa [size]), size] at changed
        rw [List.getElem?_append_right (by rwa [size]), size] at new
        rw [List.length_append, size] at inside
        obtain ⟨word, later⟩ := List.append_inj changed (by rw [size, size])
        obtain rfl := Word.bytes_injOn rightFits.1 leftFits.1 word
        obtain ⟨found, located, alone⟩ := ih aligned leftFits.2 rightFits.2 (by omega) new rfl later (start + width)
        have passed : ¬ Slot.holds ⟨start, width, name⟩ (start + place : Nat) = true := by
          simp only [Slot.holds_iff]
          omega
        have onward : start + width + (place - width) = start + place := by omega
        rw [onward] at located
        refine ⟨found, ?_, .later _ alone⟩
        rw [slots, Layout.locate_behind passed]
        exact located

end Component

/-- The part of a value that indices reach, one row within the other. -/
def Value.part? : Value → List Nat → Option Value
  | source, [] => some source
  | source, index :: rest => do
    let items ← source.items?
    let item ← items[index]?
    item.part? rest

namespace Decode

/-- Different numbers have different numerals. -/
theorem decimal_injective : Function.Injective decimal := by
  intro left right same
  exact Text.toString_injective (Value.text.inj same)

/-- A component of a proof: its name in the layout, and where its numeral stands in the document. -/
structure Place where
  name : String
  key : String
  indices : List Nat
deriving DecidableEq

/-- What stands in a place of a document. -/
def Place.part? (place : Place) (document : Value) : Option Value :=
  (document.below? place.key).bind fun point => point.part? place.indices

/-- The places of a proof in the order of the wire. -/
def proofPlaces : List Place := [
  ⟨"pi_a.x", "pi_a", [0]⟩, ⟨"pi_a.y", "pi_a", [1]⟩,
  ⟨"pi_b.x1", "pi_b", [0, 1]⟩, ⟨"pi_b.x0", "pi_b", [0, 0]⟩,
  ⟨"pi_b.y1", "pi_b", [1, 1]⟩, ⟨"pi_b.y0", "pi_b", [1, 0]⟩,
  ⟨"pi_c.x", "pi_c", [0]⟩, ⟨"pi_c.y", "pi_c", [1]⟩]

/-- The places have the names of the components. -/
theorem names_proofPlaces (words : ProofWords) :
    proofPlaces.map Place.name = words.components.map Component.name :=
  rfl

/-- In the places of a decoded proof stand the numerals of its components. -/
theorem parts_proofDocument (words : ProofWords) :
    proofPlaces.map (fun place => place.part? (proofDocument words)) =
      words.components.map fun component => some (decimal component.number) :=
  rfl

/-- The components of a decoded proof fit. -/
theorem components_proofWords_fit (content : Bytes) :
    ∀ component ∈ (proofWords content).components, component.Fits := by
  -- Each of their numbers was read from a slice.
  have fits (name : String) (offset : Nat) : (⟨name, Word.fieldSize, wordAt content offset⟩ : Component).Fits :=
    wordAt_lt content offset
  simp only [proofWords, g1At, g2At, ProofWords.components, G1Words.components, G2Words.components,
    List.forall_mem_append, List.forall_mem_cons, fits, List.not_mem_nil, false_implies, implies_true, and_self]

/-- The wire of a decoded proof is what it was decoded from. -/
theorem wire_components_proofWords {content : Bytes} (sized : content.length = 256) :
    Component.wire (proofWords content).components = content := by
  rw [ProofWords.wire_components, bytes_proofWords sized]

/-- The numerals in a place are the same exactly when the components there have the same number. -/
theorem part?_proofDocument_eq_iff {place : Place} {index : Nat} (found : proofPlaces[index]? = some place)
    (left right : ProofWords) :
    place.part? (proofDocument left) = place.part? (proofDocument right) ↔
      (left.components.map Component.number)[index]? = (right.components.map Component.number)[index]? := by
  -- A place and the component of its index are in the same row of the two lists.
  have shown (words : ProofWords) : (words.components.map Component.number)[index]?.map (fun number =>
      some (decimal number)) = some (place.part? (proofDocument words)) := by
    have parts := congrArg (·[index]?) (parts_proofDocument words)
    simp only [List.getElem?_map, found, Option.map_some] at parts
    rw [parts, List.getElem?_map, Option.map_map]
    rfl
  -- Different numbers have different numerals.
  have injective : Function.Injective fun number => some (decimal number) :=
    (Option.some_injective _).comp decimal_injective
  rw [← Option.some_inj, ← shown, ← shown, (Option.map_injective injective).eq_iff]

/-- A byte of a proof that is changed changes the numeral in one place, the one of its name in the layout. -/
theorem exists_place_of_set {content : Bytes} {offset : Nat} {byte : UInt8} (sized : content.length = 256)
    (inside : offset < 256) (new : content[offset]? ≠ some byte) :
    ∃ place ∈ proofPlaces, Layout.locate Layout.proof offset = some place.name ∧
      ∀ other ∈ proofPlaces, other.part? (proofDocument (proofWords content)) ≠
        other.part? (proofDocument (proofWords (content.set offset byte))) ↔ other = place := by
  -- The changed bytes are the wire of another proof, whose components differ in one alone.
  have aligned := ProofWords.components_aligned (proofWords content) (proofWords (content.set offset byte))
  have changed : Component.wire (proofWords (content.set offset byte)).components = content.set offset byte :=
    wire_components_proofWords (by rwa [List.length_set])
  obtain ⟨name, located, alone⟩ := Component.exists_aloneAt aligned (components_proofWords_fit _)
    (components_proofWords_fit _) (by rwa [sized]) new (wire_components_proofWords sized) changed 0
  rw [ProofWords.slots_components, Nat.zero_add] at located
  -- The component has the name of its place in the document.
  obtain ⟨index, named, exact⟩ := alone.exists_place
  rw [← names_proofPlaces, List.getElem?_map, Option.map_eq_some_iff] at named
  obtain ⟨place, found, rfl⟩ := named
  refine ⟨place, List.mem_of_getElem? found, located, fun other member => ?_⟩
  obtain ⟨otherIndex, otherFound⟩ := List.getElem?_of_mem member
  refine (not_congr (part?_proofDocument_eq_iff otherFound _ _)).trans ((exact otherIndex).trans ?_)
  -- No place is listed twice.
  constructor
  · rintro rfl
    exact Option.some.inj (otherFound.symm.trans found)
  · rintro rfl
    have within := (List.getElem?_eq_some_iff.mp otherFound).1
    exact (List.getElem?_inj within (by decide)).mp (otherFound.trans found.symm)

/-- The count in front does not depend on a byte behind it. -/
theorem countFits_set_behind {content : Bytes} {offset : Nat} {byte : UInt8} (behind : 4 ≤ offset)
    (fits : CountFits content) : CountFits (content.set offset byte) := by
  -- Neither the length nor the first four bytes change.
  rw [CountFits, List.length_set, List.take_set_of_le behind]
  exact fits

/-- A byte of the count that is changed makes the count another one, which does not fit the length. -/
theorem not_countFits_set_front {content : Bytes} {offset : Nat} {byte : UInt8} (front : offset < 4)
    (new : content[offset]? ≠ some byte) (fits : CountFits content) : ¬ CountFits (content.set offset byte) := by
  intro changed
  -- The length is as before, so a count that fits it is as before.
  have count : Word.value ((content.set offset byte).take 4) = Word.value (content.take 4) := by
    have left := fits.2
    have right := changed.2
    rw [List.length_set] at right
    omega
  -- But one of its four bytes is another one.
  rw [List.take_set] at count
  have inside : offset < (content.take 4).length := by
    rwa [List.length_take, Nat.min_eq_left fits.1]
  exact Word.value_set_ne inside (by rwa [List.getElem?_take_of_lt front]) count

/-- Bytes are decoded as public inputs only when their count fits. -/
theorem countFits_of_publicInputs {content : Bytes} {numbers : List Nat}
    (decoded : Decode.publicInputs (.bytes content) = .ok numbers) :
    CountFits content ∧ numbers = publicWords content := by
  -- Other bytes are refused.
  by_cases fits : CountFits content
  · rw [publicInputs_of_fits rfl fits] at decoded
    exact ⟨fits, (Except.ok.inj decoded).symm⟩
  · obtain ⟨fault, refused, _⟩ := publicInputs_of_not_fits fits
    rw [refused] at decoded
    cases decoded

/-- A part of decoded public inputs is the numeral of the number there. -/
theorem part?_publicDocument (numbers : List Nat) (index : Nat) :
    (publicDocument numbers).part? [index] = numbers[index]?.map decimal := by
  simp only [publicDocument, Value.part?, Value.items?, Option.bind_eq_bind, Option.bind_some, List.getElem?_map]
  cases numbers[index]? <;> rfl

/-- A byte behind the count that is changed changes one number, the one of its name in the layout. -/
theorem exists_index_of_set {content : Bytes} {offset : Nat} {byte : UInt8} (fits : CountFits content)
    (behind : 4 ≤ offset) (inside : offset < content.length) (new : content[offset]? ≠ some byte) :
    (publicWords (content.set offset byte)).length = (publicWords content).length ∧
      ∃ index < (publicWords content).length,
        Layout.locate (Layout.publicInputs (publicWords content).length) offset = some s!"public[{index}]" ∧
        ∀ other : Nat, (publicWords content)[other]? ≠ (publicWords (content.set offset byte))[other]? ↔
          other = index := by
  -- Both rows of bytes are decoded, into equally many numbers, whose components make up the bytes.
  have kept : CountFits (content.set offset byte) := countFits_set_behind behind fits
  have count : (publicWords content).length = (publicWords (content.set offset byte)).length := by
    rw [length_publicWords, length_publicWords, List.take_set_of_le behind]
  have few := length_publicWords_lt fits
  have changed : Component.wire (PublicInputs.components (publicWords (content.set offset byte))) =
      content.set offset byte := by
    rw [PublicInputs.wire_components, wire_publicWords kept]
  have given : Component.wire (PublicInputs.components (publicWords content)) = content := by
    rw [PublicInputs.wire_components, wire_publicWords fits]
  obtain ⟨name, located, alone⟩ := Component.exists_aloneAt (PublicInputs.components_aligned count)
    (PublicInputs.components_fit few (publicWords_lt _)) (PublicInputs.components_fit (count ▸ few) (publicWords_lt _))
    inside new given changed 0
  rw [PublicInputs.slots_components, Nat.zero_add] at located
  -- The count is shared, so that the component is a signal.
  rw [PublicInputs.components, PublicInputs.components, count] at alone
  obtain ⟨index, named, exact⟩ := alone.of_shared.exists_place
  rw [List.getElem?_map, PublicInputs.getElem?_signalComponents, Option.map_map, Option.map_eq_some_iff] at named
  -- The numbers of the components are the signals themselves.
  obtain ⟨number, there, rfl⟩ := named
  simp only [PublicInputs.map_number_signalComponents] at exact
  refine ⟨count.symm, index, (List.getElem?_eq_some_iff.mp there).1, ?_, exact⟩
  rw [located, Function.comp_apply, Nat.zero_add]

end Decode

/--
A change of one byte of an artifact shows in the number that the layout names for that byte.

Of a proof, the numeral in the place of that name is another one, and those in all other places stay. Of public inputs,
a byte behind the count changes the signal of that name and no other, and a byte of the count leaves bytes that are
refused for their length.
-/
theorem changed_byte_changes_located_number :
    (∀ (content : Bytes) (offset : Nat) (byte : UInt8), content.length = 256 → offset < 256 →
      content[offset]? ≠ some byte →
        ∃ before after, Decode.proofDocument <$> Decode.proof (.bytes content) = .ok before ∧
          Decode.proofDocument <$> Decode.proof (.bytes (content.set offset byte)) = .ok after ∧
          ∃ place ∈ Decode.proofPlaces, Layout.locate Layout.proof offset = some place.name ∧
            ∀ other ∈ Decode.proofPlaces, other.part? before ≠ other.part? after ↔ other = place) ∧
      ∀ (content : Bytes) (numbers : List Nat) (offset : Nat) (byte : UInt8),
        Decode.publicInputs (.bytes content) = .ok numbers → offset < content.length → content[offset]? ≠ some byte →
          if offset < 4 then
            Layout.locate (Layout.publicInputs numbers.length) offset = some "count" ∧
              ∃ fault, Decode.publicInputs (.bytes (content.set offset byte)) = .error (.classified fault) ∧
                fault.kind = .invalidLength
          else
            ∃ changed, Decode.publicInputs (.bytes (content.set offset byte)) = .ok changed ∧
              changed.length = numbers.length ∧
              ∃ index < numbers.length,
                Layout.locate (Layout.publicInputs numbers.length) offset = some s!"public[{index}]" ∧
                ∀ other : Nat, (Decode.publicDocument numbers).part? [other] ≠
                  (Decode.publicDocument changed).part? [other] ↔ other = index := by
  constructor
  · -- The length stays, so the changed bytes are a proof too.
    intro content offset byte sized inside new
    have resized : (content.set offset byte).length = 256 := by rwa [List.length_set]
    refine ⟨_, _, congrArg (Decode.proofDocument <$> ·) (Decode.proof_of_bytes rfl sized),
      congrArg (Decode.proofDocument <$> ·) (Decode.proof_of_bytes rfl resized), ?_⟩
    exact Decode.exists_place_of_set sized inside new
  · -- What was decoded had a count that fits.
    intro content numbers offset byte decoded inside new
    obtain ⟨fits, rfl⟩ := Decode.countFits_of_publicInputs decoded
    split
    next front =>
      have held : Slot.holds ⟨0, Layout.countSize, "count"⟩ offset = true := by
        rw [Slot.holds_iff]
        simp only [Layout.countSize, Word.countSize]
        omega
      obtain ⟨fault, refused, kind, _⟩ :=
        Decode.publicInputs_of_not_fits (Decode.not_countFits_set_front front new fits)
      exact ⟨Layout.locate_here held _, fault, refused, kind⟩
    next behind =>
      -- Numerals differ exactly where the numbers do.
      have behind : 4 ≤ offset := Nat.not_lt.mp behind
      obtain ⟨count, index, within, located, exact⟩ := Decode.exists_index_of_set fits behind inside new
      refine ⟨_, Decode.publicInputs_of_fits rfl (Decode.countFits_set_behind behind fits), count, index, within,
        located, fun other => ?_⟩
      rw [Decode.part?_publicDocument, Decode.part?_publicDocument, Ne,
        (Option.map_injective Decode.decimal_injective).eq_iff]
      exact exact other

/-- The bytes of a proof whose numbers are all zero. -/
def zeroProof : Bytes :=
  List.replicate 256 0

/-- The bytes of public inputs whose one signal is zero. -/
def zeroSignal : Bytes :=
  [0, 0, 0, 1] ++ List.replicate 32 0

/-- In a proof of zeros the byte at 70 belongs to the second number of the first row of the second point. The last byte
of a count declares too many signals when it is changed, and the one behind it belongs to the first signal. -/
theorem changed_byte_changes_located_number_row_and_count :
    (∃ before after, Decode.proofDocument <$> Decode.proof (.bytes zeroProof) = .ok before ∧
      Decode.proofDocument <$> Decode.proof (.bytes (zeroProof.set 70 9)) = .ok after ∧
      ∀ other ∈ Decode.proofPlaces, other.part? before ≠ other.part? after ↔ other = ⟨"pi_b.x1", "pi_b", [0, 1]⟩) ∧
      (∃ fault, Decode.publicInputs (.bytes (zeroSignal.set 3 2)) = .error (.classified fault) ∧
        fault.kind = .invalidLength) ∧
      ∃ changed, Decode.publicInputs (.bytes (zeroSignal.set 4 1)) = .ok changed ∧ changed.length = 1 := by
  have sized : zeroProof.length = 256 := List.length_replicate
  refine ⟨?_, ?_, ?_⟩
  · have old : zeroProof[70]? ≠ some 9 := by decide
    obtain ⟨before, after, left, right, place, member, located, exact⟩ :=
      changed_byte_changes_located_number.1 zeroProof 70 9 sized (by decide) old
    have named : Layout.locate Layout.proof 70 = some "pi_b.x1" := by decide
    -- One place alone has this name.
    have unique : ∀ place ∈ Decode.proofPlaces, place.name = "pi_b.x1" → place = ⟨"pi_b.x1", "pi_b", [0, 1]⟩ := by
      decide
    obtain rfl := unique place member (Option.some.inj (located.symm.trans named))
    exact ⟨before, after, left, right, exact⟩
  · have decoded : Decode.publicInputs (.bytes zeroSignal) = .ok [0] := by rfl
    exact (changed_byte_changes_located_number.2 zeroSignal [0] 3 2 decoded (by decide) (by decide)).2
  · have decoded : Decode.publicInputs (.bytes zeroSignal) = .ok [0] := by rfl
    obtain ⟨changed, kept, count, _⟩ :=
      changed_byte_changes_located_number.2 zeroSignal [0] 4 1 decoded (by decide) (by decide)
    exact ⟨changed, kept, count⟩

end ProofWire
