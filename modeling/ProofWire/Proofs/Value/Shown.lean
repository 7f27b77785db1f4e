import ProofWire.Proofs.Literal.Writable

/-! The text of a value in a message: there is one unless a number within the value has too many digits. -/

namespace ProofWire

/-- What is made of one part is missing exactly when the part is. -/
theorem made_eq_none_iff {α β : Type} {part : Option α} {make : α → β} :
    (do let found ← part; return make found) = none ↔ part = none := by
  rw [bind_pure_comp, Option.map_eq_map, Option.map_eq_none_iff]

/-- What is joined from two parts is missing exactly when one of them is. -/
theorem joined_eq_none_iff {α β γ : Type} {first : Option α} {second : Option β} {join : α → β → γ} :
    (do let left ← first; let right ← second; return join left right) = none ↔ first = none ∨ second = none := by
  cases first <;> cases second <;> simp

namespace Literal

/-- The whole numbers that the text of a literal shows; numerals are shown as they were spelled. -/
def shownNumbers : Literal → List Nat
  | .integer value | .unitFraction value => [value]
  | .decimal _ | .hex _ => []
  | .nonUnitFraction numerator denominator => [numerator, denominator]

/-- A literal has no text exactly when it shows a number that has none. -/
theorem quoted?_eq_none_iff {spelled : Literal} :
    spelled.quoted? = none ↔ ∃ number ∈ spelled.shownNumbers, Text.decimalBound ≤ number := by
  -- Numerals keep their text, however long it is.
  cases spelled with
  | integer value =>
    rw [quoted?, made_eq_none_iff, Text.decimal?_eq_none_iff]
    simp [shownNumbers]
  | unitFraction numerator =>
    rw [quoted?, made_eq_none_iff, Text.decimal?_eq_none_iff]
    simp [shownNumbers]
  | decimal numeral => simp [quoted?, shownNumbers]
  | hex numeral => simp [quoted?, shownNumbers]
  | nonUnitFraction numerator denominator =>
    rw [quoted?, joined_eq_none_iff, Text.decimal?_eq_none_iff, Text.decimal?_eq_none_iff]
    simp [shownNumbers]

end Literal

namespace Value

/-- A value that shows a number with more digits than are written, and not only in one of its parts. -/
inductive IsLong : Value → Prop where
  | int {number : Int} (long : Text.decimalBound ≤ number.natAbs) : IsLong (.int number)
  | literal {spelled : Literal} {number : Nat} (shown : number ∈ spelled.shownNumbers)
    (long : Text.decimalBound ≤ number) : IsLong (.literal spelled)

/-- A value within which a number with more digits than are written is met. -/
def ShowsLong (source : Value) : Prop :=
  ∃ inner : Value, inner.Occurs source ∧ inner.IsLong

/-- A number that is too long is the value itself, or it is met within an item or an entry. -/
theorem showsLong_iff (source : Value) :
    source.ShowsLong ↔ source.IsLong ∨
      (∃ items, source.items? = some items ∧ ∃ item ∈ items, item.ShowsLong) ∨
      ∃ entries, source = .object entries ∧ ∃ entry ∈ entries, entry.2.ShowsLong := by
  -- A number is met at the top, or below an item, or below an entry.
  constructor
  · rintro ⟨inner, within, long⟩
    cases within with
    | self => exact Or.inl long
    | item given member below => exact Or.inr (Or.inl ⟨_, given, _, member, inner, below, long⟩)
    | entry member below => exact Or.inr (Or.inr ⟨_, rfl, _, member, inner, below, long⟩)
  · rintro (long | ⟨items, given, item, member, inner, below, long⟩ | ⟨entries, rfl, entry, member, inner, below, long⟩)
    · exact ⟨source, .self, long⟩
    · exact ⟨inner, .item given member below, long⟩
    · exact ⟨inner, .entry member below, long⟩

/-- A list shows what its items show. -/
theorem showsLong_list {items : List Value} : (list items).ShowsLong ↔ ∃ item ∈ items, item.ShowsLong := by
  have plain : ¬ (list items).IsLong := nofun
  simp [showsLong_iff (list items), plain, items?]

/-- A tuple shows what its items show. -/
theorem showsLong_tuple {items : List Value} : (tuple items).ShowsLong ↔ ∃ item ∈ items, item.ShowsLong := by
  have plain : ¬ (tuple items).IsLong := nofun
  simp [showsLong_iff (tuple items), plain, items?]

/-- An object shows what its entries show. -/
theorem showsLong_object {entries : List (String × Value)} :
    (object entries).ShowsLong ↔ ∃ entry ∈ entries, entry.2.ShowsLong := by
  have plain : ¬ (object entries).IsLong := nofun
  simp [showsLong_iff (object entries), plain, items?]

/-- A value without parts shows only what it is. -/
theorem showsLong_leaf {source : Value} (unlisted : source.items? = none) (plain : ∀ entries, source ≠ .object entries) :
    source.ShowsLong ↔ source.IsLong := by
  simp [showsLong_iff source, unlisted, plain]

/-- A text shows no number that is too long, whatever its digits. -/
theorem not_showsLong_text (content : String) : ¬ (text content).ShowsLong := by
  rw [showsLong_leaf rfl (by simp)]
  exact nofun

mutual

/-- A value has no text inside a message exactly when a number that is too long is met within it. -/
theorem quoted?_eq_none_iff (source : Value) : source.quoted? = none ↔ source.ShowsLong := by
  -- Values with parts are as their parts are, and among the others only numbers can be too long.
  cases source with
  | list items => rw [quoted?, made_eq_none_iff, quotedItems?_eq_none_iff items, showsLong_list]
  | tuple items => rw [quoted?, made_eq_none_iff, quotedItems?_eq_none_iff items, showsLong_tuple]
  | object entries => rw [quoted?, made_eq_none_iff, quotedEntries?_eq_none_iff entries, showsLong_object]
  | int number =>
    rw [quoted?, Text.decimal?_eq_none_iff, showsLong_leaf rfl (by simp)]
    exact ⟨.int, fun | .int long => long⟩
  | literal spelled =>
    rw [quoted?, Literal.quoted?_eq_none_iff, showsLong_leaf rfl (by simp)]
    exact ⟨fun ⟨_, shown, long⟩ => .literal shown long, fun | .literal shown long => ⟨_, shown, long⟩⟩
  | _ =>
    rw [quoted?, showsLong_leaf rfl (by simp)]
    exact ⟨nofun, nofun⟩

/-- Items have no texts exactly when one of them has none. -/
theorem quotedItems?_eq_none_iff (items : List Value) :
    quotedItems? items = none ↔ ∃ item ∈ items, item.ShowsLong := by
  -- The first item has no text, or the others have none.
  cases items with
  | nil => simp [quotedItems?]
  | cons item rest =>
    rw [quotedItems?, joined_eq_none_iff, quoted?_eq_none_iff item, quotedItems?_eq_none_iff rest]
    simp

/-- Entries have no texts exactly when one of their values has none. -/
theorem quotedEntries?_eq_none_iff (entries : List (String × Value)) :
    quotedEntries? entries = none ↔ ∃ entry ∈ entries, entry.2.ShowsLong := by
  -- The first value has no text, or the others have none.
  cases entries with
  | nil => simp [quotedEntries?]
  | cons entry rest =>
    rw [quotedEntries?, joined_eq_none_iff, quoted?_eq_none_iff entry.2, quotedEntries?_eq_none_iff rest]
    simp

end

/-- A value has no text as a message exactly when a number that is too long is met within it. -/
theorem shown?_eq_none_iff {source : Value} : source.shown? = none ↔ source.ShowsLong := by
  -- A text is shown as it is, and everything else is quoted.
  cases source with
  | text content => exact iff_of_false nofun (not_showsLong_text content)
  | _ => exact quoted?_eq_none_iff _

end Value

end ProofWire
