import ProofWire.Layout.Basic
import ProofWire.Proofs.Comparison.FirstDifference
import ProofWire.Proofs.Word

/-! Components: the named numbers of an artifact, each with its word on the wire and its slot in the layout. -/

namespace ProofWire

/-- A slot holds the offsets between its ends and no others. -/
theorem Slot.holds_iff {slot : Slot} {offset : Int} :
    slot.holds offset = true ↔ slot.offset ≤ offset ∧ offset < slot.offset + slot.size := by
  simp [holds]

/-- An offset that the first slot holds has its name. -/
theorem Layout.locate_here {slot : Slot} {offset : Int} (held : slot.holds offset = true) (rest : List Slot) :
    locate (slot :: rest) offset = some slot.name := by
  simp only [locate, List.find?_cons, held, Option.map_some]

/-- An offset that the first slot does not hold is found in the slots behind it. -/
theorem Layout.locate_behind {slot : Slot} {offset : Int} (passed : ¬ slot.holds offset = true)
    (rest : List Slot) : locate (slot :: rest) offset = locate rest offset := by
  simp only [locate, List.find?_cons, passed]

/-- A number of an artifact under its name, with the width of its word. -/
structure Component where
  name : String
  width : Nat
  number : Nat
deriving DecidableEq

namespace Component

/-- The word of a component shows its whole number. -/
def Fits (component : Component) : Prop :=
  component.number < 256 ^ component.width

/-- The word of a component. -/
def word (component : Component) : Bytes :=
  Word.bytes component.width component.number

/-- The words of components, one after the other. -/
def wire (components : List Component) : Bytes :=
  components.flatMap word

/-- The slots of components that follow each other from an offset on. -/
def slots : Nat → List Component → List Slot
  | _, [] => []
  | offset, component :: rest =>
    ⟨offset, component.width, component.name⟩ :: slots (offset + component.width) rest

/-- The words of two rows follow each other. -/
@[simp] theorem wire_append (front back : List Component) : wire (front ++ back) = wire front ++ wire back :=
  List.flatMap_append

/-- The slots of later components begin where those of the earlier ones end. -/
theorem slots_append (offset : Nat) (front back : List Component) :
    slots offset (front ++ back) = slots offset front ++ slots (offset + (front.map width).sum) back := by
  -- Each component moves the offset by its width.
  induction front generalizing offset with
  | nil => rfl
  | cons component rest ih =>
    rw [List.cons_append, slots, ih, slots, List.map_cons, List.sum_cons, Nat.add_assoc, List.cons_append]

/-- Two rows of components part at a name: what stands before is the same, and there the numbers differ. -/
inductive PartAt (name : String) : List Component → List Component → Prop where
  | here {width left right : Nat} {leftRest rightRest : List Component} (differ : left ≠ right) :
    PartAt name (⟨name, width, left⟩ :: leftRest) (⟨name, width, right⟩ :: rightRest)
  | later (shared : Component) {left right : List Component} (behind : PartAt name left right) :
    PartAt name (shared :: left) (shared :: right)

/-- The name of the first component whose numbers differ. -/
def firstApart? (left right : List Component) : Option String :=
  ((left.zip right).find? fun (first, second) => first.number ≠ second.number).map fun (first, _) => first.name

/-- The first components come before all others. -/
theorem firstApart?_cons (first second : Component) (left right : List Component) :
    firstApart? (first :: left) (second :: right) =
      if first.number ≠ second.number then some first.name else firstApart? left right := by
  by_cases same : first.number = second.number <;> simp [firstApart?, same]

/-- Components that are equally many come before those that stand behind them. -/
theorem firstApart?_append {left right : List Component} (aligned : left.length = right.length)
    (leftBack rightBack : List Component) :
    firstApart? (left ++ leftBack) (right ++ rightBack) =
      (firstApart? left right).or (firstApart? leftBack rightBack) := by
  simp only [firstApart?, List.zip_append aligned, List.find?_append, Option.map_or]

/-- The first component that differs is the one at which the rows part. -/
theorem PartAt.firstApart? {name : String} {left right : List Component} (parted : PartAt name left right) :
    firstApart? left right = some name := by
  -- Shared components are passed over on both sides.
  induction parted with
  | here differ => rw [firstApart?_cons, if_pos differ]
  | later shared _ ih => rw [firstApart?_cons, if_neg (fun differ => differ rfl), ih]

/-- In equal rows no component differs. -/
@[simp] theorem firstApart?_self (components : List Component) : firstApart? components components = none := by
  -- No component differs from itself.
  induction components with
  | nil => rfl
  | cons component rest ih => rw [firstApart?_cons, if_neg (fun differ => differ rfl), ih]

/-- What stands behind does not change where two rows part. -/
theorem PartAt.append {name : String} {left right : List Component} (parted : PartAt name left right)
    (leftBack rightBack : List Component) : PartAt name (left ++ leftBack) (right ++ rightBack) := by
  -- The rows part before anything that stands behind.
  induction parted with
  | here differ => exact .here differ
  | later shared _ ih => exact .later shared ih

/-- Rows that begin alike part where what follows does. -/
theorem PartAt.behind {name : String} (front : List Component) {left right : List Component}
    (parted : PartAt name left right) : PartAt name (front ++ left) (front ++ right) := by
  -- Each component in front is shared.
  induction front with
  | nil => exact parted
  | cons component _ ih => exact .later component ih

/-- Rows of the same names and widths are equal or part at one of the names. -/
theorem eq_or_partAt {left right : List Component}
    (aligned : left.map (fun component => (component.name, component.width)) =
      right.map fun component => (component.name, component.width)) :
    left = right ∨ ∃ name, PartAt name left right := by
  -- Components that agree in number are shared, and the first others are where the rows part.
  induction left generalizing right with
  | nil => exact .inl (List.map_eq_nil_iff.mp aligned.symm).symm
  | cons first rest ih =>
    cases right with
    | nil => simp at aligned
    | cons second tail =>
      obtain ⟨name, width, number⟩ := first
      obtain ⟨otherName, otherWidth, other⟩ := second
      simp only [List.map_cons, List.cons.injEq, Prod.mk.injEq] at aligned
      obtain ⟨⟨rfl, rfl⟩, aligned⟩ := aligned
      by_cases same : number = other
      · subst same
        rcases ih aligned with rfl | ⟨found, parted⟩
        · exact .inl rfl
        · exact .inr ⟨found, .later _ parted⟩
      · exact .inr ⟨name, .here same⟩

/-- Rows that part have wires that part in the slot of the component at which they do. -/
theorem PartAt.locate {name : String} {left right : List Component} (parted : PartAt name left right)
    (leftFits : ∀ component ∈ left, component.Fits) (rightFits : ∀ component ∈ right, component.Fits)
    (offset : Nat) :
    ∃ place, firstDifference (wire left) (wire right) = some place ∧
      Layout.locate (slots offset left) (offset + place : Nat) = some name := by
  -- Every shared component moves the place and the slots by the width of its word.
  induction parted generalizing offset with
  | @here width leftNumber rightNumber leftRest rightRest differ =>
    rw [List.forall_mem_cons] at leftFits rightFits
    -- Different numbers that fit one width have different words, which part within that width.
    have words : Word.bytes width leftNumber ≠ Word.bytes width rightNumber := fun same =>
      differ (Word.bytes_injOn leftFits.1 rightFits.1 same)
    obtain ⟨place, inside, found⟩ :=
      firstDifference_append_right (by simp) words (wire leftRest) (wire rightRest)
    rw [Word.length_bytes] at inside
    have held : Slot.holds ⟨offset, width, name⟩ (offset + place : Nat) = true := by
      simp only [Slot.holds_iff]
      omega
    exact ⟨place, found, Layout.locate_here held _⟩
  | @later shared left right _ ih =>
    rw [List.forall_mem_cons] at leftFits rightFits
    obtain ⟨place, found, named⟩ := ih leftFits.2 rightFits.2 (offset + shared.width)
    -- The place lies behind the slot of the shared component.
    have passed : ¬ Slot.holds ⟨offset, shared.width, shared.name⟩
        (offset + (shared.width + place) : Nat) = true := by
      simp only [Slot.holds_iff]
      omega
    refine ⟨shared.width + place, ?_, ?_⟩
    · have front := firstDifference_append_left shared.word (wire left) (wire right)
      rwa [found, word, Word.length_bytes, Option.map_some] at front
    · rw [slots, Layout.locate_behind passed, ← Nat.add_assoc]
      exact named

end Component

end ProofWire
