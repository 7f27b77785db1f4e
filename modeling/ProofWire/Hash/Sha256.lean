import ProofWire.Word.Basic

/-! The SHA-256 digest. -/

namespace ProofWire.Sha256

/-- The constants of the sixty-four rounds. -/
def roundConstants : List UInt32 := [
  0x428a2f98, 0x71374491, 0xb5c0fbcf, 0xe9b5dba5, 0x3956c25b, 0x59f111f1, 0x923f82a4, 0xab1c5ed5,
  0xd807aa98, 0x12835b01, 0x243185be, 0x550c7dc3, 0x72be5d74, 0x80deb1fe, 0x9bdc06a7, 0xc19bf174,
  0xe49b69c1, 0xefbe4786, 0x0fc19dc6, 0x240ca1cc, 0x2de92c6f, 0x4a7484aa, 0x5cb0a9dc, 0x76f988da,
  0x983e5152, 0xa831c66d, 0xb00327c8, 0xbf597fc7, 0xc6e00bf3, 0xd5a79147, 0x06ca6351, 0x14292967,
  0x27b70a85, 0x2e1b2138, 0x4d2c6dfc, 0x53380d13, 0x650a7354, 0x766a0abb, 0x81c2c92e, 0x92722c85,
  0xa2bfe8a1, 0xa81a664b, 0xc24b8b70, 0xc76c51a3, 0xd192e819, 0xd6990624, 0xf40e3585, 0x106aa070,
  0x19a4c116, 0x1e376c08, 0x2748774c, 0x34b0bcb5, 0x391c0cb3, 0x4ed8aa4a, 0x5b9cca4f, 0x682e6ff3,
  0x748f82ee, 0x78a5636f, 0x84c87814, 0x8cc70208, 0x90befffa, 0xa4506ceb, 0xbef9a3f7, 0xc67178f2]

/-- The chaining value: eight words. -/
structure State where
  a : UInt32
  b : UInt32
  c : UInt32
  d : UInt32
  e : UInt32
  f : UInt32
  g : UInt32
  h : UInt32

/-- The chaining value before the first block. -/
def initial : State :=
  ⟨0x6a09e667, 0xbb67ae85, 0x3c6ef372, 0xa54ff53a, 0x510e527f, 0x9b05688c, 0x1f83d9ab, 0x5be0cd19⟩

/-- Rotation of a word to the right. -/
def rotate (word : UInt32) (count : UInt32) : UInt32 :=
  (word >>> count) ||| (word <<< (32 - count))

/-- The next word of the schedule, from the words so far with the newest one first. -/
def nextWord (newest : List UInt32) : UInt32 :=
  let word (back : Nat) := newest.getD (back - 1) 0
  let early := word 15
  let late := word 2
  let early := rotate early 7 ^^^ rotate early 18 ^^^ (early >>> 3)
  let late := rotate late 17 ^^^ rotate late 19 ^^^ (late >>> 10)
  word 16 + early + word 7 + late

/-- Prepends words of the schedule. -/
def extend : Nat → List UInt32 → List UInt32
  | 0, newest => newest
  | count + 1, newest => extend count (nextWord newest :: newest)

/-- One round on the chaining value. -/
def round (state : State) (constant word : UInt32) : State :=
  let mixed := rotate state.e 6 ^^^ rotate state.e 11 ^^^ rotate state.e 25
  let choice := (state.e &&& state.f) ^^^ (~~~state.e &&& state.g)
  let first := state.h + mixed + choice + constant + word
  let spread := rotate state.a 2 ^^^ rotate state.a 13 ^^^ rotate state.a 22
  let majority := (state.a &&& state.b) ^^^ (state.a &&& state.c) ^^^ (state.b &&& state.c)
  ⟨first + (spread + majority), state.a, state.b, state.c, state.d + first, state.e, state.f, state.g⟩

/-- The word of four bytes. -/
def wordOf (content : Bytes) : UInt32 :=
  UInt32.ofNat (Word.value content)

/-- Splits bytes into rows of a positive width. -/
def rows (width : Nat) : Nat → Bytes → List Bytes
  | 0, _ => []
  | count + 1, content => content.take width :: rows width count (content.drop width)

/-- The chaining value after one block of sixty-four bytes. -/
def compress (state : State) (block : Bytes) : State :=
  let schedule := (extend 48 ((rows 4 16 block).map wordOf).reverse).reverse
  let mixed := (roundConstants.zip schedule).foldl
    (fun (current : State) (pair : UInt32 × UInt32) => round current pair.1 pair.2) state
  ⟨state.a + mixed.a, state.b + mixed.b, state.c + mixed.c, state.d + mixed.d,
    state.e + mixed.e, state.f + mixed.f, state.g + mixed.g, state.h + mixed.h⟩

/-- A message followed by one bit, zeros and its length in bits fills whole blocks. -/
def pad (message : Bytes) : Bytes :=
  message ++ 0x80 :: List.replicate ((119 - message.length % 64) % 64) 0
    ++ Word.bytes 8 (8 * message.length)

/-- The bytes of a chaining value. -/
def State.bytes (state : State) : Bytes :=
  [state.a, state.b, state.c, state.d, state.e, state.f, state.g, state.h].flatMap fun word =>
    Word.bytes 4 word.toNat

/-- The digest of a message. -/
def digest (message : Bytes) : Bytes :=
  let padded := pad message
  ((rows 64 (padded.length / 64) padded).foldl compress initial).bytes

end ProofWire.Sha256
