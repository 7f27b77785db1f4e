import ProofWire.Proofs.Artifact.Encoding
import ProofWire.Proofs.Layout.Component

/-! Artifacts as components: their words make up the wire form, and their slots the layout. -/

namespace ProofWire

open Component

/-- The components of a G1 point. -/
def G1Words.components (label : String) (words : G1Words) : List Component :=
  [⟨label ++ ".x", Word.fieldSize, words.x⟩, ⟨label ++ ".y", Word.fieldSize, words.y⟩]

/-- The components of a G2 point in the order of the wire. -/
def G2Words.components (label : String) (words : G2Words) : List Component :=
  [⟨label ++ ".x1", Word.fieldSize, words.x1⟩, ⟨label ++ ".x0", Word.fieldSize, words.x0⟩,
    ⟨label ++ ".y1", Word.fieldSize, words.y1⟩, ⟨label ++ ".y0", Word.fieldSize, words.y0⟩]

/-- The words of a G1 point are those of its components. -/
@[simp] theorem G1Words.wire_components (label : String) (words : G1Words) :
    wire (words.components label) = words.bytes := by
  simp [wire, word, components, G1Words.bytes, fieldWord]

/-- The words of a G2 point are those of its components. -/
@[simp] theorem G2Words.wire_components (label : String) (words : G2Words) :
    wire (words.components label) = words.bytes := by
  simp [wire, word, components, G2Words.bytes, fieldWord]

/-- The slots of a G1 point are those of its components. -/
theorem G1Words.slots_components (label : String) (offset : Nat) (words : G1Words) :
    slots offset (words.components label) = Layout.g1 label offset := by
  simp [slots, components, Layout.g1, Layout.field]

/-- The slots of a G2 point are those of its components. -/
theorem G2Words.slots_components (label : String) (offset : Nat) (words : G2Words) :
    slots offset (words.components label) = Layout.g2 label offset := by
  simp [slots, components, Layout.g2, Layout.field]
  omega

/-- A G1 point takes two field words. -/
@[simp] theorem G1Words.sum_width_components (label : String) (words : G1Words) :
    ((words.components label).map Component.width).sum = 2 * Word.fieldSize := by
  simp [components]
  omega

/-- A G2 point takes four field words. -/
@[simp] theorem G2Words.sum_width_components (label : String) (words : G2Words) :
    ((words.components label).map Component.width).sum = 4 * Word.fieldSize := by
  simp [components]
  omega

/-- The components of a denoted G1 point fit. -/
theorem G1.Denotes.components_fit {source : Value} {words : G1Words} (denoted : G1.Denotes source words)
    (label : String) : ∀ component ∈ words.components label, component.Fits := by
  -- Coordinates have fewer bits than their words.
  have bound := Word.baseModulus_lt_fieldBound
  obtain ⟨x, y⟩ := denoted.inRange
  rw [G1Words.components, List.forall_mem_cons, List.forall_mem_cons]
  exact ⟨Nat.lt_trans x bound, Nat.lt_trans y bound, List.forall_mem_nil _⟩

/-- The components of a denoted G2 point fit. -/
theorem G2.Denotes.components_fit {source : Value} {words : G2Words} (denoted : G2.Denotes source words)
    (label : String) : ∀ component ∈ words.components label, component.Fits := by
  -- Coordinates have fewer bits than their words.
  have bound := Word.baseModulus_lt_fieldBound
  obtain ⟨x0, x1, y0, y1⟩ := denoted.inRange
  rw [G2Words.components, List.forall_mem_cons, List.forall_mem_cons, List.forall_mem_cons, List.forall_mem_cons]
  exact ⟨Nat.lt_trans x1 bound, Nat.lt_trans x0 bound, Nat.lt_trans y1 bound, Nat.lt_trans y0 bound,
    List.forall_mem_nil _⟩

namespace ProofWords

/-- The components of a proof in the order of the wire. -/
def components (words : ProofWords) : List Component :=
  words.a.components "pi_a" ++ words.b.components "pi_b" ++ words.c.components "pi_c"

/-- The words of a proof are those of its components. -/
theorem wire_components (words : ProofWords) : wire words.components = words.bytes := by
  simp [components, ProofWords.bytes]

/-- The slots of a proof are those of its components. -/
theorem slots_components (words : ProofWords) : slots 0 words.components = Layout.proof := by
  simp [components, slots_append, G1Words.slots_components, G2Words.slots_components, Layout.proof,
    Layout.g1Size, Layout.g2Size, Layout.field]

/-- Different proofs have different components. -/
theorem components_injective : Function.Injective components := by
  -- Equal components hold equal numbers, and these are the words in wire order.
  intro left right same
  apply inWireOrder_injective
  exact congrArg (List.map Component.number) same

/-- Proofs have the same names and widths. -/
theorem components_aligned (left right : ProofWords) :
    left.components.map (fun component => (component.name, component.width)) =
      right.components.map fun component => (component.name, component.width) :=
  rfl

/-- Two proofs are the same or part at a name. -/
theorem components_parted (left right : ProofWords) :
    left.components = right.components ∨ ∃ name, PartAt name left.components right.components :=
  eq_or_partAt (components_aligned left right)

end ProofWords

/-- The components of a denoted proof fit. -/
theorem Proof.Denotes.components_fit {source : Value} {words : ProofWords}
    (denoted : Proof.Denotes source words) : ∀ component ∈ words.components, component.Fits := by
  -- The three points contribute their own components.
  obtain ⟨_, _, a⟩ := denoted.a
  obtain ⟨_, _, b⟩ := denoted.b
  obtain ⟨_, _, c⟩ := denoted.c
  simp only [ProofWords.components, List.forall_mem_append]
  exact ⟨⟨a.components_fit _, b.components_fit _⟩, c.components_fit _⟩

namespace PublicInputs

/-- The components of signals from an index on. -/
def signalComponents : Nat → List Nat → List Component
  | _, [] => []
  | index, number :: rest =>
    ⟨s!"public[{index}]", Word.fieldSize, number⟩ :: signalComponents (index + 1) rest

/-- The components of public inputs: the count and the signals. -/
def components (numbers : List Nat) : List Component :=
  ⟨"count", Word.countSize, numbers.length⟩ :: signalComponents 0 numbers

/-- The words of public inputs are those of their components. -/
theorem wire_components (numbers : List Nat) : Component.wire (components numbers) = wire numbers := by
  -- The names of signals leave no trace in the bytes.
  have body (index : Nat) : Component.wire (signalComponents index numbers) = numbers.flatMap fieldWord := by
    induction numbers generalizing index with
    | nil => rfl
    | cons number rest ih =>
      rw [List.flatMap_cons, ← ih (index + 1)]
      rfl
  rw [wire, ← body 0]
  rfl

/-- The slots of signals lie behind the count, one word after the other. -/
theorem slots_signalComponents (index : Nat) (numbers : List Nat) :
    slots (Word.countSize + index * Word.fieldSize) (signalComponents index numbers) =
      (List.range' index numbers.length).map Layout.signal := by
  -- The offset and the index move on together.
  induction numbers generalizing index with
  | nil => rfl
  | cons number rest ih =>
    have onward : Word.countSize + index * Word.fieldSize + Word.fieldSize =
        Word.countSize + (index + 1) * Word.fieldSize := by
      rw [Nat.succ_mul, Nat.add_assoc]
    rw [signalComponents, slots, onward, ih, List.length_cons, List.range'_succ, List.map_cons]
    simp [Layout.signal, Layout.countSize, Layout.field]

/-- The slots of public inputs are those of their components. -/
theorem slots_components (numbers : List Nat) :
    slots 0 (components numbers) = Layout.publicInputs numbers.length := by
  -- The count takes the first slot, and the signals follow at multiples of the word.
  have signals := slots_signalComponents 0 numbers
  rw [Nat.zero_mul] at signals
  rw [components, slots, Nat.zero_add, Layout.publicInputs, Int.toNat_natCast, List.range_eq_range', ← signals]
  rfl

/-- Signals determine their components and are determined by them. -/
theorem map_number_signalComponents (index : Nat) (numbers : List Nat) :
    (signalComponents index numbers).map Component.number = numbers := by
  -- Each component holds its own signal, whatever its index is.
  induction numbers generalizing index with
  | nil => rfl
  | cons number rest ih => rw [signalComponents, List.map_cons, ih]

/-- Different public inputs have different components. -/
theorem components_injective : Function.Injective components := by
  intro left right same
  rw [← map_number_signalComponents 0 left, ← map_number_signalComponents 0 right, (List.cons.inj same).2]

/-- Equally many signals have the same names and widths. -/
theorem signalComponents_aligned {left right : List Nat} (count : left.length = right.length) (index : Nat) :
    (signalComponents index left).map (fun component => (component.name, component.width)) =
      (signalComponents index right).map fun component => (component.name, component.width) := by
  -- Names and widths depend on the indices alone.
  induction left generalizing index right with
  | nil => rw [List.length_eq_zero_iff.mp count.symm]
  | cons number rest ih =>
    cases right with
    | nil => simp at count
    | cons other tail => simp [signalComponents, ih (Nat.succ.inj count)]

/-- Equally many signals are the same or part at a name. -/
theorem signalComponents_parted {left right : List Nat} (count : left.length = right.length) (index : Nat) :
    signalComponents index left = signalComponents index right ∨
      ∃ name, PartAt name (signalComponents index left) (signalComponents index right) :=
  eq_or_partAt (signalComponents_aligned count index)

/-- Equally many public inputs have the same names and widths. -/
theorem components_aligned {left right : List Nat} (count : left.length = right.length) :
    (components left).map (fun component => (component.name, component.width)) =
      (components right).map fun component => (component.name, component.width) := by
  rw [components, components, List.map_cons, List.map_cons, signalComponents_aligned count]

/-- Two rows of public inputs are the same or part at a name. -/
theorem components_parted (left right : List Nat) :
    components left = components right ∨ ∃ name, PartAt name (components left) (components right) := by
  -- Different counts part the rows in front of all signals.
  by_cases count : left.length = right.length
  · rw [components, components, count]
    rcases signalComponents_parted count 0 with same | ⟨name, parted⟩
    · exact .inl (by rw [same])
    · exact .inr ⟨name, .later _ parted⟩
  · exact .inr ⟨_, .here count⟩

/-- The first signals that differ have the least index of all that do. -/
theorem firstApart?_signalComponents (index : Nat) (left right : List Nat) :
    firstApart? (signalComponents index left) (signalComponents index right) =
      ((left.zip right).findIdx? fun (first, second) => first ≠ second).map fun place =>
        s!"public[{index + place}]" := by
  -- Signals that agree move the index by one.
  induction left generalizing index right with
  | nil => rfl
  | cons first rest ih =>
    cases right with
    | nil => rfl
    | cons second tail =>
      rw [signalComponents, signalComponents, firstApart?_cons, ih, List.zip_cons_cons, List.findIdx?_cons]
      by_cases same : first = second
      · simp [same, Function.comp_def, Nat.add_right_comm, Nat.add_assoc]
      · simp [same]

/-- The count comes before the signals. -/
theorem firstApart?_components (left right : List Nat) :
    firstApart? (components left) (components right) =
      if left.length ≠ right.length then some "count"
      else ((left.zip right).findIdx? fun (first, second) => first ≠ second).map fun place =>
        s!"public[{place}]" := by
  simp only [components, firstApart?_cons, firstApart?_signalComponents, Nat.zero_add]

/-- The components of public inputs fit when their numbers do and are few enough for the count. -/
theorem components_fit {numbers : List Nat} (few : numbers.length < Word.countBound)
    (fits : ∀ number ∈ numbers, number < Word.fieldBound) : ∀ component ∈ components numbers, component.Fits := by
  -- Every signal fits, whatever its index.
  have signals (index : Nat) : ∀ component ∈ signalComponents index numbers, component.Fits := by
    clear few
    induction numbers generalizing index with
    | nil => simp [signalComponents]
    | cons number rest ih =>
      rw [List.forall_mem_cons] at fits
      rw [signalComponents, List.forall_mem_cons]
      exact ⟨fits.1, ih fits.2 (index + 1)⟩
  rw [components, List.forall_mem_cons]
  exact ⟨few, signals 0⟩

/-- The components of denoted public inputs fit. -/
theorem Denotes.components_fit {source : Value} {numbers : List Nat} (denoted : Denotes source numbers) :
    ∀ component ∈ components numbers, component.Fits := by
  obtain ⟨few, inRange⟩ := denoted.inRange
  -- Scalars have fewer bits than their words.
  exact PublicInputs.components_fit few fun number member =>
    Nat.lt_trans (inRange number member) Word.scalarModulus_lt_fieldBound

end PublicInputs

namespace KeyWords

/-- The components of a row of points from an index on. -/
def rowComponents : Nat → List G1Words → List Component
  | _, [] => []
  | index, point :: rest =>
    point.components (VerificationKey.icLabel index) ++ rowComponents (index + 1) rest

/-- The components of the four points that every key has. -/
def fixedComponents (words : KeyWords) : List Component :=
  words.alpha.components "vk_alpha_1" ++ words.beta.components "vk_beta_2"
    ++ words.gamma.components "vk_gamma_2" ++ words.delta.components "vk_delta_2"

/-- The components of a verification key in the order of the wire: the fixed points, the count and the row. -/
def components (words : KeyWords) : List Component :=
  words.fixedComponents ++ ⟨"IC.count", Word.countSize, words.ic.length⟩ :: rowComponents 0 words.ic

/-- The words of a verification key are those of its components. -/
theorem wire_components (words : KeyWords) : wire words.components = words.bytes := by
  -- The names of points leave no trace in the bytes.
  have row (index : Nat) (points : List G1Words) :
      wire (rowComponents index points) = points.flatMap G1Words.bytes := by
    induction points generalizing index with
    | nil => rfl
    | cons point rest ih => rw [rowComponents, wire_append, G1Words.wire_components, ih, List.flatMap_cons]
  have count : wire (⟨"IC.count", Word.countSize, words.ic.length⟩ :: rowComponents 0 words.ic) =
      Word.bytes Word.countSize words.ic.length ++ wire (rowComponents 0 words.ic) := rfl
  simp [components, fixedComponents, count, row, KeyWords.bytes]

/-- The slots of a row lie one point behind the other. -/
theorem slots_rowComponents (start index : Nat) (points : List G1Words) :
    slots (start + index * (2 * Word.fieldSize)) (rowComponents index points) =
      (List.range' index points.length).flatMap fun place =>
        Layout.g1 (VerificationKey.icLabel place) (start + place * Layout.g1Size) := by
  -- The offset moves by the two words of a point, and the index by one.
  induction points generalizing index with
  | nil => rfl
  | cons point rest ih =>
    have onward : start + index * (2 * Word.fieldSize) + 2 * Word.fieldSize =
        start + (index + 1) * (2 * Word.fieldSize) := by
      rw [Nat.succ_mul index, Nat.add_assoc]
    rw [rowComponents, slots_append, G1Words.slots_components, G1Words.sum_width_components, onward, ih,
      List.length_cons, List.range'_succ, List.flatMap_cons]
    simp [Layout.g1Size, Layout.field]

/-- The fixed points take fourteen field words. -/
theorem sum_width_fixedComponents (words : KeyWords) :
    (words.fixedComponents.map Component.width).sum = 14 * Word.fieldSize := by
  simp [fixedComponents]
  omega

/-- The slots of the fixed points are those of their components. -/
theorem slots_fixedComponents (words : KeyWords) :
    slots 0 words.fixedComponents =
      Layout.g1 "vk_alpha_1" 0 ++ Layout.g2 "vk_beta_2" Layout.g1Size
        ++ Layout.g2 "vk_gamma_2" (Layout.g1Size + Layout.g2Size)
        ++ Layout.g2 "vk_delta_2" (Layout.g1Size + 2 * Layout.g2Size) := by
  -- Only the last offset is written in two ways.
  have last : (2 * Word.fieldSize + 4 * Word.fieldSize + 4 * Word.fieldSize : Int) =
      2 * Word.fieldSize + 2 * (4 * Word.fieldSize) := by omega
  simp [fixedComponents, slots_append, G1Words.slots_components, G2Words.slots_components, Layout.g1Size,
    Layout.g2Size, Layout.field, last]

/-- The slots of a verification key are those of its components. -/
theorem slots_components (words : KeyWords) : slots 0 words.components = Layout.key words.ic.length := by
  have row := slots_rowComponents (14 * Word.fieldSize + Word.countSize) 0 words.ic
  rw [Nat.zero_mul, Nat.add_zero] at row
  -- The count lies behind fourteen words, and the row behind the count.
  have count : ((14 * Word.fieldSize : Nat) : Int) = Layout.g1Size + 3 * Layout.g2Size := rfl
  have start : ((14 * Word.fieldSize + Word.countSize : Nat) : Int) = Layout.rowOffset := rfl
  rw [components, slots_append, slots_fixedComponents, sum_width_fixedComponents, Nat.zero_add, slots, row, count,
    start, Layout.key, Int.toNat_natCast, List.range_eq_range']
  simp only [Layout.countSize, VerificationKey.icLabel]

/-- Rows of points determine their components and are determined by them. -/
theorem rowComponents_injective (index : Nat) : Function.Injective (rowComponents index) := by
  intro left right same
  -- Each point has two components, which show its numbers.
  induction left generalizing index right with
  | nil =>
    cases right with
    | nil => rfl
    | cons => simp [rowComponents, G1Words.components] at same
  | cons point rest ih =>
    cases right with
    | nil => simp [rowComponents, G1Words.components] at same
    | cons other tail =>
      obtain ⟨x, y⟩ := point
      obtain ⟨otherX, otherY⟩ := other
      simp only [rowComponents, G1Words.components, List.cons_append, List.nil_append, List.cons.injEq,
        Component.mk.injEq, true_and] at same
      obtain ⟨rfl, rfl, later⟩ := same
      rw [ih (index + 1) later]

/-- Different keys have different components. -/
theorem components_injective : Function.Injective components := by
  -- Fourteen components show the numbers of the fixed points, and the others the row.
  rintro ⟨⟨_, _⟩, ⟨_, _, _, _⟩, ⟨_, _, _, _⟩, ⟨_, _, _, _⟩, left⟩
    ⟨⟨_, _⟩, ⟨_, _, _, _⟩, ⟨_, _, _, _⟩, ⟨_, _, _, _⟩, right⟩ same
  simp only [components, fixedComponents, G1Words.components, G2Words.components, List.cons_append,
    List.nil_append, List.cons.injEq, Component.mk.injEq, true_and] at same
  obtain ⟨rfl, rfl, rfl, rfl, rfl, rfl, rfl, rfl, rfl, rfl, rfl, rfl, rfl, rfl, _, row⟩ := same
  rw [rowComponents_injective 0 row]

/-- Equally many points are the same or part at a name. -/
theorem rowComponents_parted {left right : List G1Words} (count : left.length = right.length) (index : Nat) :
    rowComponents index left = rowComponents index right ∨
      ∃ name, PartAt name (rowComponents index left) (rowComponents index right) := by
  -- Names and widths depend on the indices alone.
  apply eq_or_partAt
  induction left generalizing index right with
  | nil => rw [List.length_eq_zero_iff.mp count.symm]
  | cons point rest ih =>
    cases right with
    | nil => simp at count
    | cons other tail => simp [rowComponents, G1Words.components, ih (Nat.succ.inj count)]

/-- Two keys are the same or part at a name. -/
theorem components_parted (left right : KeyWords) :
    left.components = right.components ∨ ∃ name, PartAt name left.components right.components := by
  -- The names of the fixed points are those of every key.
  have fixed : left.fixedComponents = right.fixedComponents ∨
      ∃ name, PartAt name left.fixedComponents right.fixedComponents := eq_or_partAt rfl
  rw [components, components]
  -- Keys part among the fixed points, at the count or, when they agree on both, in the row.
  rcases fixed with same | ⟨name, parted⟩
  · rw [same]
    by_cases count : left.ic.length = right.ic.length
    · rw [count]
      rcases rowComponents_parted count 0 with same | ⟨name, parted⟩
      · exact .inl (by rw [same])
      · exact .inr ⟨name, .behind _ (.later _ parted)⟩
    · exact .inr ⟨_, .behind _ (.here count)⟩
  · exact .inr ⟨name, parted.append _ _⟩

/-- The fixed points come before the count, and the count before the row. -/
theorem firstApart?_components (left right : KeyWords) :
    firstApart? left.components right.components =
      (firstApart? left.fixedComponents right.fixedComponents).or
        (if left.ic.length ≠ right.ic.length then some "IC.count"
        else firstApart? (rowComponents 0 left.ic) (rowComponents 0 right.ic)) := by
  -- Every key has the same fixed points.
  have aligned : left.fixedComponents.length = right.fixedComponents.length := rfl
  rw [components, components, firstApart?_append aligned, firstApart?_cons]

end KeyWords

/-- The components of a row of denoted points fit. -/
theorem KeyWords.rowComponents_fit {items : List Value} {row : List G1Words}
    (read : List.Forall₂ G1.Denotes items row) (index : Nat) :
    ∀ component ∈ rowComponents index row, component.Fits := by
  -- Every point of the row fits by itself.
  induction read generalizing index with
  | nil => exact List.forall_mem_nil _
  | cons first _ ih =>
    rw [rowComponents, List.forall_mem_append]
    exact ⟨first.components_fit _, ih (index + 1)⟩

/-- The components of a denoted key fit. -/
theorem VerificationKey.Denotes.components_fit {source : Value} {words : KeyWords}
    (denoted : VerificationKey.Denotes source words) : ∀ component ∈ words.components, component.Fits := by
  -- The count was tested when the row was read.
  obtain ⟨_, _, alpha⟩ := denoted.alpha
  obtain ⟨_, _, beta⟩ := denoted.beta
  obtain ⟨_, _, gamma⟩ := denoted.gamma
  obtain ⟨_, _, delta⟩ := denoted.delta
  obtain ⟨_, _, few, read⟩ := denoted.ic
  rw [KeyWords.components, KeyWords.fixedComponents]
  simp only [List.forall_mem_append, List.forall_mem_cons]
  exact ⟨⟨⟨⟨alpha.components_fit _, beta.components_fit _⟩, gamma.components_fit _⟩, delta.components_fit _⟩,
    read.length_eq ▸ few, KeyWords.rowComponents_fit read 0⟩

end ProofWire
