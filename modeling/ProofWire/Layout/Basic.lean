import ProofWire.Artifact.Point

/-! Layouts: which bytes of an artifact hold which number. -/

namespace ProofWire

/-- A named row of bytes. -/
structure Slot where
  offset : Int
  size : Int
  name : String
deriving DecidableEq

/-- A slot holds an offset from its first byte up to before its end. -/
def Slot.holds (slot : Slot) (offset : Int) : Bool :=
  slot.offset ≤ offset && offset < slot.offset + slot.size

namespace Layout

/-- The bytes of a field word. -/
def field : Int := Word.fieldSize

/-- The bytes of a G1 point. -/
def g1Size : Int := 2 * field

/-- The bytes of a G2 point. -/
def g2Size : Int := 4 * field

/-- The bytes of a count. -/
def countSize : Int := Word.countSize

/-- The slots of a G1 point from an offset on. -/
def g1 (label : String) (offset : Int) : List Slot := [
  ⟨offset, field, label ++ ".x"⟩,
  ⟨offset + field, field, label ++ ".y"⟩]

/-- The slots of a G2 point from an offset on, the second part of each coordinate first. -/
def g2 (label : String) (offset : Int) : List Slot := [
  ⟨offset, field, label ++ ".x1"⟩,
  ⟨offset + field, field, label ++ ".x0"⟩,
  ⟨offset + 2 * field, field, label ++ ".y1"⟩,
  ⟨offset + 3 * field, field, label ++ ".y0"⟩]

/-- The slots of a proof. -/
def proof : List Slot :=
  g1 "pi_a" 0 ++ g2 "pi_b" g1Size ++ g1 "pi_c" (g1Size + g2Size)

/-- The slot of a public input. -/
def signal (index : Nat) : Slot :=
  ⟨countSize + index * field, field, s!"public[{index}]"⟩

/-- The slots of public inputs; a count below zero stands for none. -/
def publicInputs (count : Int) : List Slot :=
  ⟨0, countSize, "count"⟩ :: (List.range count.toNat).map signal

/-- The bytes of a verification key before its row of points. -/
def rowOffset : Int :=
  g1Size + 3 * g2Size + countSize

/-- The slots of a verification key; a count below zero stands for none. -/
def key (count : Int) : List Slot :=
  g1 "vk_alpha_1" 0 ++ g2 "vk_beta_2" g1Size ++ g2 "vk_gamma_2" (g1Size + g2Size)
    ++ g2 "vk_delta_2" (g1Size + 2 * g2Size)
    ++ ⟨g1Size + 3 * g2Size, countSize, "IC.count"⟩
    :: (List.range count.toNat).flatMap fun (index : Nat) =>
      g1 s!"IC[{index}]" (rowOffset + index * g1Size)

/-- The name of the first slot that holds an offset. -/
def locate (slots : List Slot) (offset : Int) : Option String :=
  (slots.find? (·.holds offset)).map Slot.name

end Layout

end ProofWire
