import ProofWire.Word.Basic

/-! The Keccak-256 digest, with the padding of the first submission. -/

namespace ProofWire.Keccak

/-- Five rows of five lanes. -/
abbrev State := Vector UInt64 25

/-- The constants of the twenty-four rounds. -/
def roundConstants : List UInt64 := [
  0x0000000000000001, 0x0000000000008082, 0x800000000000808a, 0x8000000080008000,
  0x000000000000808b, 0x0000000080000001, 0x8000000080008081, 0x8000000000008009,
  0x000000000000008a, 0x0000000000000088, 0x0000000080008009, 0x000000008000000a,
  0x000000008000808b, 0x800000000000008b, 0x8000000000008089, 0x8000000000008003,
  0x8000000000008002, 0x8000000000000080, 0x000000000000800a, 0x800000008000000a,
  0x8000000080008081, 0x8000000000008080, 0x0000000080000001, 0x8000000080008008]

/-- How far each lane turns. -/
def turns : Vector UInt64 25 := #v[
  0, 1, 62, 28, 27,
  36, 44, 6, 55, 20,
  3, 10, 43, 25, 39,
  41, 45, 15, 21, 8,
  18, 2, 61, 56, 14]

/-- Rotation of a lane to the left. -/
def rotate (lane count : UInt64) : UInt64 :=
  if count = 0 then lane else (lane <<< count) ||| (lane >>> (64 - count))

/-- The lane in a column and a row, both taken modulo five. -/
def lane (state : State) (column row : Nat) : UInt64 :=
  state.get ⟨column % 5 + 5 * (row % 5), by omega⟩

/-- The parity of a column. -/
def parity (state : State) (column : Nat) : UInt64 :=
  lane state column 0 ^^^ lane state column 1 ^^^ lane state column 2 ^^^ lane state column 3
    ^^^ lane state column 4

/-- Every lane takes up the parities of two neighbouring columns. -/
def mixColumns (state : State) : State :=
  Vector.ofFn fun (place : Fin 25) =>
    let column := place.val % 5
    state[place.val] ^^^ parity state (column + 4) ^^^ rotate (parity state (column + 1)) 1

/-- Lanes turn and move: the lane in column `y` and row `2x + 3y` comes from column `x` and row `y`. -/
def turnAndMove (state : State) : State :=
  Vector.ofFn fun (place : Fin 25) =>
    let column := place.val % 5
    let row := place.val / 5
    -- The row equation is solved for the column that the lane comes from.
    let source := (column + 3 * row) % 5
    rotate (lane state source column) (turns.get ⟨source + 5 * column, by omega⟩)

/-- Every lane takes up a combination of the next two lanes of its row. -/
def mixRows (state : State) : State :=
  Vector.ofFn fun (place : Fin 25) =>
    let column := place.val % 5
    let row := place.val / 5
    state[place.val] ^^^ (~~~lane state (column + 1) row &&& lane state (column + 2) row)

/-- One round. -/
def round (state : State) (constant : UInt64) : State :=
  let mixed := mixRows (turnAndMove (mixColumns state))
  mixed.set 0 (mixed[0] ^^^ constant)

/-- The permutation. -/
def permute (state : State) : State :=
  roundConstants.foldl round state

/-- The bytes of a block. -/
def rate : Nat := 136

/-- The number that bytes denote, the least significant one first. -/
def littleEndian (content : Bytes) : UInt64 :=
  UInt64.ofNat (Word.value content.reverse)

/-- Adds a block into the state and permutes it. -/
def absorb (state : State) (block : Bytes) : State :=
  permute (Vector.ofFn fun (place : Fin 25) =>
    state[place.val] ^^^ littleEndian ((block.drop (8 * place.val)).take 8))

/-- A message and a first and a last bit fill whole blocks. -/
def pad (message : Bytes) : Bytes :=
  let gap := rate - message.length % rate
  if gap = 1 then message ++ [0x81]
  else message ++ 0x01 :: List.replicate (gap - 2) 0 ++ [0x80]

/-- Absorbs a number of blocks. -/
def absorbAll : Nat → State → Bytes → State
  | 0, state, _ => state
  | count + 1, state, content =>
    absorbAll count (absorb state (content.take rate)) (content.drop rate)

/-- The digest of a message: the first four lanes after the last block. -/
def digest (message : Bytes) : Bytes :=
  let padded := pad message
  let state := absorbAll (padded.length / rate) (Vector.replicate 25 0) padded
  (state.toList.take 4).flatMap fun word => (Word.bytes 8 word.toNat).reverse

end ProofWire.Keccak
