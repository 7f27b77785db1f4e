import ProofWire.Proofs.Artifact.PublicRoundTrip
import ProofWire.Proofs.Layout.Name

/-! Descriptions: under the name of each slot, an encoding holds the word of the number that the encoded value shows
under that name. -/

namespace ProofWire

namespace Component

/-- The wire of components is as long as their words. -/
theorem length_wire (components : List Component) : (wire components).length = (components.map width).sum := by
  -- Each word is as wide as its component.
  induction components with
  | nil => rfl
  | cons component rest ih =>
    have split : wire (component :: rest) = component.word ++ wire rest := rfl
    rw [split, List.length_append, ih, word, Word.length_bytes, List.map_cons, List.sum_cons]

/-- Slots have the names of their components. -/
theorem names_slots (start : Nat) (components : List Component) :
    (slots start components).map Slot.name = components.map Component.name := by
  -- The running offset does not enter the names.
  induction components generalizing start with
  | nil => rfl
  | cons component rest ih => rw [slots, List.map_cons, List.map_cons, ih]

/-- The bytes in a slot are the word of its component. -/
theorem slice_of_mem_slots {start : Nat} {components : List Component} {slot : Slot}
    (member : slot ∈ slots start components) :
    ∃ component ∈ components, ∃ offset : Nat,
      slot = ⟨(start + offset : Nat), component.width, component.name⟩ ∧
        ((wire components).drop offset).take component.width = component.word := by
  -- The first slot holds the first word, and what follows that word is the wire of the other components.
  induction components generalizing start with
  | nil => cases member
  | cons first rest ih =>
    have split : wire (first :: rest) = first.word ++ wire rest := rfl
    have width : first.word.length = first.width := Word.length_bytes _ _
    rw [slots, List.mem_cons] at member
    rcases member with rfl | later
    · refine ⟨first, List.mem_cons_self, 0, rfl, ?_⟩
      rw [split, List.drop_zero, List.take_append_of_le_length (Nat.le_of_eq width.symm),
        List.take_of_length_le (Nat.le_of_eq width)]
    · obtain ⟨component, kept, offset, rfl, slice⟩ := ih later
      refine ⟨component, List.mem_cons_of_mem _ kept, first.width + offset, by rw [Nat.add_assoc], ?_⟩
      rw [split, ← List.drop_drop, List.drop_append_of_le_length (Nat.le_of_eq width.symm),
        List.drop_of_length_le (Nat.le_of_eq width), List.nil_append, slice]

/-- The last slot ends where the wire does. -/
theorem getLast?_slots (start : Nat) {components : List Component} (filled : components ≠ []) :
    ∃ last, (slots start components).getLast? = some last ∧
      last.offset + last.size = (start + (wire components).length : Nat) := by
  obtain ⟨front, last, rfl⟩ := (List.eq_nil_or_concat' components).resolve_left filled
  -- The components in front take their words, and the last one takes its own.
  refine ⟨⟨(start + (front.map width).sum : Nat), last.width, last.name⟩, ?_, ?_⟩
  · rw [slots_append]
    exact List.getLast?_concat
  · rw [length_wire, List.map_append, List.sum_append, List.map_cons, List.map_nil, List.sum_singleton]
    push_cast
    omega

end Component

/-- A layout describes bytes by what a value shows: the last slot ends with the bytes, each slot has the name of
exactly one component that is shown and holds its word, and no component that is shown lacks a slot. -/
structure Layout.Describes (layout : List Slot) (content : Bytes) (shows : Component → Prop) : Prop where
  ends : ∃ last, layout.getLast? = some last ∧ last.offset + last.size = content.length
  words : ∀ slot ∈ layout, ∃ (component : Component) (offset : Nat),
    shows component ∧ (∀ other, shows other → other.name = slot.name → other = component) ∧
      slot = ⟨offset, component.width, component.name⟩ ∧ component.Fits ∧
        (content.drop offset).take component.width = component.word
  complete : ∀ component, shows component → ∃ slot ∈ layout, slot.name = component.name

/-- The slots of components describe their wire. -/
theorem Layout.describes_of_components {components : List Component} {shows : Component → Prop}
    (filled : components ≠ []) (names : (components.map Component.name).Nodup)
    (fits : ∀ component ∈ components, component.Fits) (shown : ∀ component, shows component ↔ component ∈ components) :
    Layout.Describes (Component.slots 0 components) (Component.wire components) shows where
  ends := by
    obtain ⟨last, found, ends⟩ := Component.getLast?_slots 0 filled
    rw [Nat.zero_add] at ends
    exact ⟨last, found, ends⟩
  words := by
    intro slot member
    obtain ⟨component, kept, offset, rfl, slice⟩ := Component.slice_of_mem_slots member
    refine ⟨component, offset, (shown component).mpr kept, ?_, by rw [Nat.zero_add], fits component kept, slice⟩
    -- No other component has the name of this one.
    intro other otherShown same
    exact List.inj_on_of_nodup_map names ((shown other).mp otherShown) kept same
  complete := by
    intro component isShown
    have named : component.name ∈ (Component.slots 0 components).map Slot.name := by
      rw [Component.names_slots]
      exact List.mem_map_of_mem ((shown component).mp isShown)
    exact List.mem_map.mp named

/-- In a described layout, the slot of a component that is shown holds its word. -/
theorem Layout.Describes.slice {layout : List Slot} {content : Bytes} {shows : Component → Prop}
    (described : Layout.Describes layout content shows) {component : Component} {offset : Nat}
    (member : ⟨offset, component.width, component.name⟩ ∈ layout) (shown : shows component) :
    (content.drop offset).take component.width = component.word := by
  obtain ⟨found, place, _, unique, same, _, slice⟩ := described.words _ member
  -- Only one component has the name of the slot.
  obtain rfl := unique component shown rfl
  simp only [Slot.mk.injEq, Int.natCast_inj, and_true] at same
  rw [same]
  exact slice

/-- The number that a value shows for a coordinate of a G1 point: zero at infinity, and else the number in the place
of the coordinate. -/
inductive G1.Shows (source : Value) : String → Nat → Prop where
  | infinity {x y z : Value} {part : String} (items : source.items? = some [x, y, z]) (scale : z.natural = .ok 0)
    (named : part = "x" ∨ part = "y") : G1.Shows source part 0
  | x {x y z : Value} {number : Nat} (items : source.items? = some [x, y, z]) (scale : z.natural = .ok 1)
    (read : x.natural = .ok number) : G1.Shows source "x" number
  | y {x y z : Value} {number : Nat} (items : source.items? = some [x, y, z]) (scale : z.natural = .ok 1)
    (read : y.natural = .ok number) : G1.Shows source "y" number

/-- The number that a value shows for a coordinate of a G2 point: zero at infinity, and else the number in the place
of the coordinate, the pair of `x` first and that of `y` second. -/
inductive G2.Shows (source : Value) : String → Nat → Prop where
  | infinity {x y z z0 z1 : Value} {part : String} (items : source.items? = some [x, y, z])
    (zItems : z.items? = some [z0, z1]) (scale0 : z0.natural = .ok 0) (scale1 : z1.natural = .ok 0)
    (named : part = "x0" ∨ part = "x1" ∨ part = "y0" ∨ part = "y1") : G2.Shows source part 0
  | x0 {x y z x0 x1 z0 z1 : Value} {number : Nat} (items : source.items? = some [x, y, z])
    (zItems : z.items? = some [z0, z1]) (scale0 : z0.natural = .ok 1) (scale1 : z1.natural = .ok 0)
    (pair : x.items? = some [x0, x1]) (read : x0.natural = .ok number) : G2.Shows source "x0" number
  | x1 {x y z x0 x1 z0 z1 : Value} {number : Nat} (items : source.items? = some [x, y, z])
    (zItems : z.items? = some [z0, z1]) (scale0 : z0.natural = .ok 1) (scale1 : z1.natural = .ok 0)
    (pair : x.items? = some [x0, x1]) (read : x1.natural = .ok number) : G2.Shows source "x1" number
  | y0 {x y z y0 y1 z0 z1 : Value} {number : Nat} (items : source.items? = some [x, y, z])
    (zItems : z.items? = some [z0, z1]) (scale0 : z0.natural = .ok 1) (scale1 : z1.natural = .ok 0)
    (pair : y.items? = some [y0, y1]) (read : y0.natural = .ok number) : G2.Shows source "y0" number
  | y1 {x y z y0 y1 z0 z1 : Value} {number : Nat} (items : source.items? = some [x, y, z])
    (zItems : z.items? = some [z0, z1]) (scale0 : z0.natural = .ok 1) (scale1 : z1.natural = .ok 0)
    (pair : y.items? = some [y0, y1]) (read : y1.natural = .ok number) : G2.Shows source "y1" number

/-- A value shows the numbers of the G1 point that it stands for. -/
theorem G1.shows_iff {source : Value} {words : G1Words} (denoted : G1.Denotes source words) {part : String}
    {number : Nat} :
    G1.Shows source part number ↔ (part = "x" ∧ number = words.x) ∨ (part = "y" ∧ number = words.y) := by
  constructor
  · -- There is one row of items, and the scale decides on one way to read it.
    intro shown
    cases denoted with
    | infinity given zero =>
      cases shown with
      | infinity items scale named =>
        rcases named with rfl | rfl
        · exact .inl ⟨rfl, rfl⟩
        · exact .inr ⟨rfl, rfl⟩
      | x items scale read => cases items.symm.trans given; cases scale.symm.trans zero
      | y items scale read => cases items.symm.trans given; cases scale.symm.trans zero
    | affine given one first _ second _ =>
      cases shown with
      | infinity items scale named => cases items.symm.trans given; cases scale.symm.trans one
      | x items scale read =>
        cases items.symm.trans given
        exact .inl ⟨rfl, Except.ok.inj (read.symm.trans first)⟩
      | y items scale read =>
        cases items.symm.trans given
        exact .inr ⟨rfl, Except.ok.inj (read.symm.trans second)⟩
  · intro stated
    cases denoted with
    | infinity given zero =>
      rcases stated with ⟨rfl, rfl⟩ | ⟨rfl, rfl⟩
      · exact .infinity given zero (.inl rfl)
      · exact .infinity given zero (.inr rfl)
    | affine given one first _ second _ =>
      rcases stated with ⟨rfl, rfl⟩ | ⟨rfl, rfl⟩
      · exact .x given one first
      · exact .y given one second

/-- A value shows the numbers of the G2 point that it stands for. -/
theorem G2.shows_iff {source : Value} {words : G2Words} (denoted : G2.Denotes source words) {part : String}
    {number : Nat} :
    G2.Shows source part number ↔ (part = "x0" ∧ number = words.x0) ∨ (part = "x1" ∧ number = words.x1) ∨
      (part = "y0" ∧ number = words.y0) ∨ (part = "y1" ∧ number = words.y1) := by
  constructor
  · -- There is one row of items, and the scale decides on one way to read it.
    intro shown
    cases denoted with
    | infinity given _ _ zGiven zero0 zero1 =>
      cases shown with
      | infinity items zItems scale0 scale1 named =>
        rcases named with rfl | rfl | rfl | rfl
        · exact .inl ⟨rfl, rfl⟩
        · exact .inr (.inl ⟨rfl, rfl⟩)
        · exact .inr (.inr (.inl ⟨rfl, rfl⟩))
        · exact .inr (.inr (.inr ⟨rfl, rfl⟩))
      | x0 items zItems scale0 | x1 items zItems scale0 | y0 items zItems scale0 | y1 items zItems scale0 =>
        cases items.symm.trans given
        cases zItems.symm.trans zGiven
        cases scale0.symm.trans zero0
    | affine given xGiven yGiven zGiven one zero first0 _ first1 _ second0 _ second1 _ =>
      cases shown with
      | infinity items zItems scale0 =>
        cases items.symm.trans given
        cases zItems.symm.trans zGiven
        cases scale0.symm.trans one
      | x0 items _ _ _ pair read =>
        cases items.symm.trans given
        cases pair.symm.trans xGiven
        exact .inl ⟨rfl, Except.ok.inj (read.symm.trans first0)⟩
      | x1 items _ _ _ pair read =>
        cases items.symm.trans given
        cases pair.symm.trans xGiven
        exact .inr (.inl ⟨rfl, Except.ok.inj (read.symm.trans first1)⟩)
      | y0 items _ _ _ pair read =>
        cases items.symm.trans given
        cases pair.symm.trans yGiven
        exact .inr (.inr (.inl ⟨rfl, Except.ok.inj (read.symm.trans second0)⟩))
      | y1 items _ _ _ pair read =>
        cases items.symm.trans given
        cases pair.symm.trans yGiven
        exact .inr (.inr (.inr ⟨rfl, Except.ok.inj (read.symm.trans second1)⟩))
  · intro stated
    cases denoted with
    | infinity given _ _ zGiven zero0 zero1 =>
      have named : part = "x0" ∨ part = "x1" ∨ part = "y0" ∨ part = "y1" := by
        rcases stated with ⟨rfl, _⟩ | ⟨rfl, _⟩ | ⟨rfl, _⟩ | ⟨rfl, _⟩ <;> simp
      have zero : number = 0 := by
        rcases stated with ⟨_, rfl⟩ | ⟨_, rfl⟩ | ⟨_, rfl⟩ | ⟨_, rfl⟩ <;> rfl
      subst zero
      exact .infinity given zGiven zero0 zero1 named
    | affine given xGiven yGiven zGiven one zero first0 _ first1 _ second0 _ second1 _ =>
      rcases stated with ⟨rfl, rfl⟩ | ⟨rfl, rfl⟩ | ⟨rfl, rfl⟩ | ⟨rfl, rfl⟩
      · exact .x0 given zGiven one zero xGiven first0
      · exact .x1 given zGiven one zero xGiven first1
      · exact .y0 given zGiven one zero yGiven second0
      · exact .y1 given zGiven one zero yGiven second1

/-- The components of a G1 point are what its value shows for the coordinates. -/
theorem G1.mem_components_iff {source : Value} {words : G1Words} (denoted : G1.Denotes source words)
    {label : String} {component : Component} :
    component ∈ words.components label ↔
      ∃ part number, G1.Shows source part number ∧ component = ⟨label ++ "." ++ part, Word.fieldSize, number⟩ := by
  -- There are two coordinates, and a component for each.
  simp only [G1.shows_iff denoted, G1Words.components, List.mem_cons, List.not_mem_nil, or_false, String.append_assoc]
  constructor
  · rintro (rfl | rfl)
    · exact ⟨"x", _, .inl ⟨rfl, rfl⟩, rfl⟩
    · exact ⟨"y", _, .inr ⟨rfl, rfl⟩, rfl⟩
  · rintro ⟨part, number, ⟨rfl, rfl⟩ | ⟨rfl, rfl⟩, rfl⟩
    · exact .inl rfl
    · exact .inr rfl

/-- The components of a G2 point are what its value shows for the coordinates. -/
theorem G2.mem_components_iff {source : Value} {words : G2Words} (denoted : G2.Denotes source words)
    {label : String} {component : Component} :
    component ∈ words.components label ↔
      ∃ part number, G2.Shows source part number ∧ component = ⟨label ++ "." ++ part, Word.fieldSize, number⟩ := by
  simp only [G2.shows_iff denoted, G2Words.components, List.mem_cons, List.not_mem_nil, or_false, String.append_assoc]
  constructor
  · -- On the wire the second part of a pair comes first.
    rintro (rfl | rfl | rfl | rfl)
    · exact ⟨"x1", _, .inr (.inl ⟨rfl, rfl⟩), rfl⟩
    · exact ⟨"x0", _, .inl ⟨rfl, rfl⟩, rfl⟩
    · exact ⟨"y1", _, .inr (.inr (.inr ⟨rfl, rfl⟩)), rfl⟩
    · exact ⟨"y0", _, .inr (.inr (.inl ⟨rfl, rfl⟩)), rfl⟩
  · rintro ⟨part, number, ⟨rfl, rfl⟩ | ⟨rfl, rfl⟩ | ⟨rfl, rfl⟩ | ⟨rfl, rfl⟩, rfl⟩
    · exact .inr (.inl rfl)
    · exact .inl rfl
    · exact .inr (.inr (.inr rfl))
    · exact .inr (.inr (.inl rfl))

/-- An object holds one value under a key. -/
theorem Value.Holds.unique {source left right : Value} {key : String} (first : source.Holds key left)
    (second : source.Holds key right) : left = right :=
  Except.ok.inj ((Value.entry_eq_ok_iff.mpr first).symm.trans (Value.entry_eq_ok_iff.mpr second))

/-- What an object shows for the G1 point under a key: the coordinates of the point, named by the key. -/
inductive G1.ShowsAt (source : Value) (key : String) : Component → Prop where
  | coordinate {point : Value} {part : String} {number : Nat} (held : source.Holds key point)
    (shown : G1.Shows point part number) : G1.ShowsAt source key ⟨key ++ "." ++ part, Word.fieldSize, number⟩

/-- What an object shows for the G2 point under a key: the coordinates of the point, named by the key. -/
inductive G2.ShowsAt (source : Value) (key : String) : Component → Prop where
  | coordinate {point : Value} {part : String} {number : Nat} (held : source.Holds key point)
    (shown : G2.Shows point part number) : G2.ShowsAt source key ⟨key ++ "." ++ part, Word.fieldSize, number⟩

/-- The components of a G1 point under a key are what the object shows for it. -/
theorem G1.showsAt_iff {source : Value} {key : String} {words : G1Words}
    (denoted : G1.DenotesAt source key words) {component : Component} :
    G1.ShowsAt source key component ↔ component ∈ words.components key := by
  -- The point under the key is the same on both sides, since the key is held once.
  obtain ⟨point, held, denoted⟩ := denoted
  rw [G1.mem_components_iff denoted]
  constructor
  · rintro ⟨otherHeld, shown⟩
    obtain rfl := held.unique otherHeld
    exact ⟨_, _, shown, rfl⟩
  · rintro ⟨part, number, shown, rfl⟩
    exact .coordinate held shown

/-- The components of a G2 point under a key are what the object shows for it. -/
theorem G2.showsAt_iff {source : Value} {key : String} {words : G2Words}
    (denoted : G2.DenotesAt source key words) {component : Component} :
    G2.ShowsAt source key component ↔ component ∈ words.components key := by
  -- The point under the key is the same on both sides, since the key is held once.
  obtain ⟨point, held, denoted⟩ := denoted
  rw [G2.mem_components_iff denoted]
  constructor
  · rintro ⟨otherHeld, shown⟩
    obtain rfl := held.unique otherHeld
    exact ⟨_, _, shown, rfl⟩
  · rintro ⟨part, number, shown, rfl⟩
    exact .coordinate held shown

/-- What a value shows as a proof: the coordinates of its three points. -/
inductive Proof.Shows (source : Value) (component : Component) : Prop where
  | a (shown : G1.ShowsAt source "pi_a" component)
  | b (shown : G2.ShowsAt source "pi_b" component)
  | c (shown : G1.ShowsAt source "pi_c" component)

/-- The components of a proof are what its value shows. -/
theorem Proof.shows_iff {source : Value} {words : ProofWords} (denoted : Proof.Denotes source words)
    (component : Component) : Proof.Shows source component ↔ component ∈ words.components := by
  -- The three points show their components one after the other.
  simp only [ProofWords.components, List.mem_append, ← G1.showsAt_iff denoted.a, ← G2.showsAt_iff denoted.b,
    ← G1.showsAt_iff denoted.c]
  constructor
  · rintro (shown | shown | shown)
    · exact .inl (.inl shown)
    · exact .inl (.inr shown)
    · exact .inr shown
  · rintro ((shown | shown) | shown)
    · exact .a shown
    · exact .b shown
    · exact .c shown

/-- What a value shows as public inputs: how many items it has, and the number of each under its index. -/
inductive PublicInputs.Shows (source : Value) : Component → Prop where
  | count {items : List Value} (given : source.items? = some items) :
    PublicInputs.Shows source ⟨"count", Word.countSize, items.length⟩
  | signal {items : List Value} {item : Value} {index number : Nat} (given : source.items? = some items)
    (place : items[index]? = some item) (read : item.natural = .ok number) :
    PublicInputs.Shows source ⟨s!"public[{index}]", Word.fieldSize, number⟩

/-- In two related rows, the place of an item on the right holds a related one on the left. -/
theorem exists_getElem?_of_forall₂ {α β : Type} {related : α → β → Prop} {left : List α} {right : List β}
    (rows : List.Forall₂ related left right) {place : Nat} {second : β} (found : right[place]? = some second) :
    ∃ first, left[place]? = some first ∧ related first second := by
  -- Both rows are passed together.
  induction rows generalizing place with
  | nil => simp at found
  | cons here _ ih =>
    cases place with
    | zero =>
      obtain rfl := Option.some.inj found
      exact ⟨_, rfl, here⟩
    | succ place => exact ih found

/-- The components of public inputs are what their value shows. -/
theorem PublicInputs.shows_iff {source : Value} {numbers : List Nat} (denoted : PublicInputs.Denotes source numbers)
    (component : Component) : PublicInputs.Shows source component ↔ component ∈ PublicInputs.components numbers := by
  obtain ⟨given, read, _⟩ := denoted
  rw [PublicInputs.components, List.mem_cons, PublicInputs.mem_signalComponents_iff]
  constructor
  · intro shown
    cases shown with
    | count items =>
      cases items.symm.trans given
      exact .inl (by rw [read.length_eq])
    | @signal _ item index number items place natural =>
      cases items.symm.trans given
      -- The item denotes one number, which is the one in its place.
      obtain ⟨other, found, same, _⟩ := exists_getElem?_of_forall₂ read.flip place
      obtain rfl := Except.ok.inj (natural.symm.trans same)
      exact .inr ⟨index, number, found, by rw [Nat.zero_add]⟩
  · rintro (rfl | ⟨index, number, found, rfl⟩)
    · rw [← read.length_eq]
      exact .count given
    · obtain ⟨item, place, natural, _⟩ := exists_getElem?_of_forall₂ read found
      rw [Nat.zero_add]
      exact .signal given place natural

/-- What a value shows as a verification key: the coordinates of its four fixed points, how many points its row has,
and the coordinates of each of them under its index. -/
inductive VerificationKey.Shows (source : Value) : Component → Prop where
  | alpha {component : Component} (shown : G1.ShowsAt source "vk_alpha_1" component) :
    VerificationKey.Shows source component
  | beta {component : Component} (shown : G2.ShowsAt source "vk_beta_2" component) :
    VerificationKey.Shows source component
  | gamma {component : Component} (shown : G2.ShowsAt source "vk_gamma_2" component) :
    VerificationKey.Shows source component
  | delta {component : Component} (shown : G2.ShowsAt source "vk_delta_2" component) :
    VerificationKey.Shows source component
  | count {row : Value} {items : List Value} (held : source.Holds "IC" row) (given : row.items? = some items) :
    VerificationKey.Shows source ⟨"IC.count", Word.countSize, items.length⟩
  | point {row point : Value} {items : List Value} {index number : Nat} {part : String}
    (held : source.Holds "IC" row) (given : row.items? = some items) (place : items[index]? = some point)
    (shown : G1.Shows point part number) :
    VerificationKey.Shows source ⟨s!"IC[{index}]" ++ "." ++ part, Word.fieldSize, number⟩

/-- The components of a row are what its items show. -/
theorem KeyWords.mem_rowComponents_iff_shows {items : List Value} {points : List G1Words}
    (read : List.Forall₂ G1.Denotes items points) {component : Component} :
    component ∈ KeyWords.rowComponents 0 points ↔
      ∃ (index : Nat) (point : Value) (part : String) (number : Nat), items[index]? = some point ∧
        G1.Shows point part number ∧ component = ⟨s!"IC[{index}]" ++ "." ++ part, Word.fieldSize, number⟩ := by
  -- Items and points of the row stand in step, so that one index serves for both.
  rw [KeyWords.mem_rowComponents_iff]
  simp only [Nat.zero_add]
  constructor
  · rintro ⟨index, words, found, member⟩
    obtain ⟨point, place, denoted⟩ := exists_getElem?_of_forall₂ read found
    obtain ⟨part, number, shown, rfl⟩ := (G1.mem_components_iff denoted).mp member
    exact ⟨index, point, part, number, place, shown, rfl⟩
  · rintro ⟨index, point, part, number, place, shown, rfl⟩
    obtain ⟨words, found, denoted⟩ := exists_getElem?_of_forall₂ read.flip place
    exact ⟨index, words, found, (G1.mem_components_iff denoted).mpr ⟨part, number, shown, rfl⟩⟩

/-- The components of a verification key are what its value shows. -/
theorem VerificationKey.shows_iff {source : Value} {words : KeyWords} (denoted : VerificationKey.Denotes source words)
    (component : Component) : VerificationKey.Shows source component ↔ component ∈ words.components := by
  obtain ⟨held, given, _, read⟩ := denoted.ic
  simp only [KeyWords.components, KeyWords.fixedComponents, List.mem_append, List.mem_cons,
    ← G1.showsAt_iff denoted.alpha, ← G2.showsAt_iff denoted.beta, ← G2.showsAt_iff denoted.gamma,
    ← G2.showsAt_iff denoted.delta, KeyWords.mem_rowComponents_iff_shows read]
  constructor
  · intro shown
    cases shown with
    | alpha shown => exact .inl (.inl (.inl (.inl shown)))
    | beta shown => exact .inl (.inl (.inl (.inr shown)))
    | gamma shown => exact .inl (.inl (.inr shown))
    | delta shown => exact .inl (.inr shown)
    -- The row under its key is the one whose points are denoted.
    | count otherHeld items =>
      obtain rfl := held.unique otherHeld
      cases items.symm.trans given
      exact .inr (.inl (by rw [read.length_eq]))
    | point otherHeld items place shown =>
      obtain rfl := held.unique otherHeld
      cases items.symm.trans given
      exact .inr (.inr ⟨_, _, _, _, place, shown, rfl⟩)
  · rintro ((((shown | shown) | shown) | shown) | rfl | ⟨index, point, part, number, place, shown, rfl⟩)
    · exact .alpha shown
    · exact .beta shown
    · exact .gamma shown
    · exact .delta shown
    · rw [← read.length_eq]
      exact .count held given
    · exact .point held given place shown

/-- The layout of proofs describes the wire of a proof. -/
theorem Proof.Denotes.described {source : Value} {words : ProofWords} (denoted : Proof.Denotes source words) :
    Layout.Describes Layout.proof words.bytes (Proof.Shows source) := by
  -- The layout is that of the components, and their wire is the encoding.
  have filled : words.components ≠ [] := List.cons_ne_nil _ _
  have described := Layout.describes_of_components filled words.components_names_nodup denoted.components_fit
    (Proof.shows_iff denoted)
  rwa [words.slots_components, words.wire_components] at described

/-- The layout of as many public inputs as there are numbers describes their wire. -/
theorem PublicInputs.Denotes.described {source : Value} {numbers : List Nat}
    (denoted : PublicInputs.Denotes source numbers) :
    Layout.Describes (Layout.publicInputs numbers.length) (PublicInputs.wire numbers) (PublicInputs.Shows source) := by
  -- The layout is that of the components, and their wire is the encoding.
  have filled : PublicInputs.components numbers ≠ [] := List.cons_ne_nil _ _
  have described := Layout.describes_of_components filled (PublicInputs.components_names_nodup numbers)
    denoted.components_fit (PublicInputs.shows_iff denoted)
  rwa [PublicInputs.slots_components, PublicInputs.wire_components] at described

/-- The layout of a verification key with as many points as its row describes its wire. -/
theorem VerificationKey.Denotes.described {source : Value} {words : KeyWords}
    (denoted : VerificationKey.Denotes source words) :
    Layout.Describes (Layout.key words.ic.length) words.bytes (VerificationKey.Shows source) := by
  -- The layout is that of the components, and their wire is the encoding.
  have filled : words.components ≠ [] := List.cons_ne_nil _ _
  have described := Layout.describes_of_components filled words.components_names_nodup denoted.components_fit
    (VerificationKey.shows_iff denoted)
  rwa [words.slots_components, words.wire_components] at described

/-- A row of points takes two field words for each of them. -/
theorem KeyWords.length_flatMap_bytes (points : List G1Words) :
    (points.flatMap G1Words.bytes).length = 64 * points.length := by
  -- Each point adds two words of 32 bytes.
  induction points with
  | nil => rfl
  | cons point rest ih =>
    have width : point.bytes.length = 64 := by simp [G1Words.bytes, Word.fieldSize]
    rw [List.flatMap_cons, List.length_append, ih, width, List.length_cons]
    omega

/-- A verification key takes fourteen field words, a count and two field words for each point of its row. -/
theorem KeyWords.length_bytes (words : KeyWords) : words.bytes.length = 452 + 64 * words.ic.length := by
  simp only [KeyWords.bytes, G1Words.bytes, G2Words.bytes, fieldWord, List.length_append, Word.length_bytes,
    KeyWords.length_flatMap_bytes, Word.fieldSize, Word.countSize]

/--
Layouts describe what the encoders write.

Whenever an artifact is encoded, its bytes end with the last slot of its layout, and each slot holds the word of what
the encoded value shows under the name of the slot: a count, a signal by its index, or a coordinate by its point, which
is zero at infinity.
-/
theorem layout_describes_encoding (source : Value) (content : Bytes) :
    ((Encode.proofBytes source).result = .ok content →
      content.length = 256 ∧ Layout.Describes Layout.proof content (Proof.Shows source)) ∧
    ((Encode.publicBytes source).result = .ok content →
      ∃ items, source.items? = some items ∧ content.length = 4 + 32 * items.length ∧
        Layout.Describes (Layout.publicInputs items.length) content (PublicInputs.Shows source)) ∧
    ((Encode.keyBytes source).result = .ok content →
      ∃ row items, source.Holds "IC" row ∧ row.items? = some items ∧ content.length = 452 + 64 * items.length ∧
        Layout.Describes (Layout.key items.length) content (VerificationKey.Shows source)) ∧
    fieldWord 0 = List.replicate 32 0 := by
  refine ⟨?_, ?_, ?_, by decide⟩
  · intro encoded
    obtain ⟨words, denoted, written⟩ := Encode.proofBytes_eq_ok_iff.mp encoded
    rw [written]
    exact ⟨words.length_bytes, denoted.described⟩
  · intro encoded
    obtain ⟨numbers, denoted, written⟩ := Encode.publicBytes_eq_ok_iff.mp encoded
    have described := denoted.described
    -- There are as many items as numbers.
    obtain ⟨given, read, _⟩ := denoted
    rw [written]
    exact ⟨_, given, by rw [PublicInputs.length_wire, read.length_eq]; rfl, by rwa [read.length_eq]⟩
  · intro encoded
    obtain ⟨words, denoted, written⟩ := Encode.keyBytes_eq_ok_iff.mp encoded
    have described := denoted.described
    -- There are as many items in the row as points.
    obtain ⟨held, given, _, read⟩ := denoted.ic
    rw [written]
    exact ⟨_, _, held, given, by rw [words.length_bytes, read.length_eq], by rwa [read.length_eq]⟩

/-- A key whose fixed points lie at infinity, with one point in its row. -/
def shortKey : Value :=
  .object [
    ("vk_alpha_1", .list [.null, .null, .text "0x0"]),
    ("vk_beta_2", .list [.list [], .list [], .list [.int 0, .int 0]]),
    ("vk_gamma_2", .list [.list [], .list [], .list [.int 0, .int 0]]),
    ("vk_delta_2", .list [.list [], .list [], .list [.int 0, .int 0]]),
    ("IC", .tuple [.list [.int 5, .text "6", .int 1]])]

/-- The numbers of the short key. -/
def shortKeyWords : KeyWords :=
  ⟨⟨0, 0⟩, ⟨0, 0, 0, 0⟩, ⟨0, 0, 0, 0⟩, ⟨0, 0, 0, 0⟩, [⟨5, 6⟩]⟩

/-- The short key stands for its numbers. -/
theorem shortKey_denotes : VerificationKey.Denotes shortKey shortKeyWords where
  -- All points but the one of the row lie at infinity.
  alpha := ⟨_, ⟨_, rfl, rfl⟩, .infinity rfl rfl⟩
  beta := ⟨_, ⟨_, rfl, rfl⟩, .infinity rfl rfl rfl rfl rfl rfl⟩
  gamma := ⟨_, ⟨_, rfl, rfl⟩, .infinity rfl rfl rfl rfl rfl rfl⟩
  delta := ⟨_, ⟨_, rfl, rfl⟩, .infinity rfl rfl rfl rfl rfl rfl⟩
  ic := .points ⟨_, rfl, rfl⟩ rfl (by decide) (.cons (.affine rfl rfl rfl (by decide) rfl (by decide)) .nil)

/-- The slots of a coordinate behind its twin, of a second signal and of a point in a row hold their numbers. -/
theorem layout_describes_encoding_twin_and_rows :
    (sharedWords.bytes.drop 96).take 32 = fieldWord 7 ∧
      ((PublicInputs.wire [31, 9]).drop 36).take 32 = fieldWord 9 ∧
      (shortKeyWords.bytes.drop 484).take 32 = fieldWord 6 := by
  -- Each part shows one number, and its slot is found in the layout by computation.
  refine ⟨?_, ?_, ?_⟩
  · have encoded := Encode.proofBytes_eq_ok_iff.mpr ⟨sharedWords, mixedProof_denotes, rfl⟩
    obtain ⟨_, described⟩ := (layout_describes_encoding mixedProof _).1 encoded
    have shown : Proof.Shows mixedProof ⟨"pi_b" ++ "." ++ "x0", 32, 7⟩ :=
      .b (.coordinate ⟨_, rfl, rfl⟩ (.x0 rfl rfl rfl rfl rfl rfl))
    have member : ⟨(96 : Nat), 32, "pi_b" ++ "." ++ "x0"⟩ ∈ Layout.proof := by decide
    exact described.slice member shown
  · have denoted : PublicInputs.Denotes (.list [.text "0x1f", .int 9]) [31, 9] :=
      .signals rfl (.cons ⟨rfl, by decide⟩ (.cons ⟨rfl, by decide⟩ .nil)) (by decide)
    have encoded := Encode.publicBytes_eq_ok_iff.mpr ⟨[31, 9], denoted, rfl⟩
    obtain ⟨items, given, _, described⟩ := (layout_describes_encoding _ _).2.1 encoded
    cases given
    have shown : PublicInputs.Shows (.list [.text "0x1f", .int 9]) ⟨s!"public[{1}]", 32, 9⟩ :=
      .signal rfl rfl rfl
    have member : ⟨(36 : Nat), 32, s!"public[{1}]"⟩ ∈ Layout.publicInputs 2 := by decide
    exact described.slice member shown
  · have encoded := Encode.keyBytes_eq_ok_iff.mpr ⟨shortKeyWords, shortKey_denotes, rfl⟩
    obtain ⟨row, items, held, given, _, described⟩ := (layout_describes_encoding shortKey _).2.2.1 encoded
    have shown : VerificationKey.Shows shortKey ⟨s!"IC[{0}]" ++ "." ++ "y", 32, 6⟩ :=
      .point ⟨_, rfl, rfl⟩ rfl rfl (.y rfl rfl rfl)
    obtain rfl : row = .tuple [.list [.int 5, .text "6", .int 1]] := held.unique ⟨_, rfl, rfl⟩
    cases given
    have member : ⟨(484 : Nat), 32, s!"IC[{0}]" ++ "." ++ "y"⟩ ∈ Layout.key 1 := by decide
    have slice := described.slice member shown
    exact slice

end ProofWire
