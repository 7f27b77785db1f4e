import ProofWire.Artifact.Point
import ProofWire.Text.Hex

/-! Artifacts: proofs, public inputs and verification keys, read from untyped values and written as bytes. -/

namespace ProofWire

namespace Value

/-- The entry of an object under a key that has to be there. -/
def entry (source : Value) (key : String) : Except Failure Value :=
  match source with
  | .object entries =>
    match entries.lookup key with
    | some value => .ok value
    | none => .error (Cause.missingField key).raise
  | other => .error (Cause.notObject key other.shape).raise

/-- The items of a value that has to be a list or a tuple; its role is told when it is not. -/
def array (source : Value) (role : String) : Except Failure (List Value) :=
  match source.items? with
  | some items => .ok items
  | none => .error (Cause.notArray role source.shape).raise

end Value

/-- The G1 point under a key, labelled with it. -/
def G1.readEntry (source : Value) (key : String) : Traced G1 := do
  let point ← Traced.lift (source.entry key)
  G1.read (some key) point

/-- The G2 point under a key, labelled with it. -/
def G2.readEntry (source : Value) (key : String) : Traced G2 := do
  let point ← Traced.lift (source.entry key)
  G2.read (some key) point

/-- A count has a word when it lies below the bound; otherwise the failure shows the count. -/
def Word.fitCount (count : Nat) : Except Failure (PLift (count < Word.countBound)) :=
  if fits : count < Word.countBound then .ok ⟨fits⟩
  else .error (Cause.countOutOfRange (.int count)).raise

/-- A proof: two points of the first group around one of the second. -/
structure Proof where
  a : G1
  b : G2
  c : G1

/-- The numbers of a proof on the wire. -/
structure ProofWords where
  a : G1Words
  b : G2Words
  c : G1Words
deriving DecidableEq

/-- The bytes of a proof. -/
def ProofWords.bytes (words : ProofWords) : Bytes :=
  words.a.bytes ++ words.b.bytes ++ words.c.bytes

namespace Proof

/-- The wire numbers of a proof. -/
def words (proof : Proof) : ProofWords :=
  ⟨proof.a.words, proof.b.words, proof.c.words⟩

/-- The wire form of a proof, 256 bytes. -/
def bytes (proof : Proof) : Bytes :=
  proof.words.bytes

/-- Reads the three points in order; the first failure ends the reading. -/
def read (source : Value) : Traced Proof := do
  let a ← G1.readEntry source "pi_a"
  let b ← G2.readEntry source "pi_b"
  let c ← G1.readEntry source "pi_c"
  return ⟨a, b, c⟩

end Proof

/-- Public inputs: scalars in the order of the circuit, few enough for the count. -/
structure PublicInputs where
  signals : List Scalar
  few : signals.length < Word.countBound

namespace PublicInputs

/-- The wire form of public inputs: the count and a word for each signal. -/
def bytes (inputs : PublicInputs) : Bytes :=
  Word.bytes Word.countSize inputs.signals.length ++ inputs.signals.flatMap Scalar.word

/-- Reads signals in order; a fault carries the index of its signal. -/
def readSignals : Nat → List Value → Except Failure (List Scalar)
  | _, [] => .ok []
  | index, source :: rest => do
    let signal ← located [("label", .text "public"), ("index", .int index)] (Scalar.ofValue source)
    let signals ← readSignals (index + 1) rest
    return signal :: signals

/-- Public inputs are a list or a tuple of scalars; the count is checked last. -/
def ofValue (source : Value) : Except Failure PublicInputs := do
  let items ← source.array "public signals"
  let signals ← readSignals 0 items
  let few ← Word.fitCount signals.length
  return ⟨signals, few.down⟩

end PublicInputs

/-- A verification key: four fixed points and one further point for each public input and one. -/
structure VerificationKey where
  alpha : G1
  beta : G2
  gamma : G2
  delta : G2
  ic : List G1
  few : ic.length < Word.countBound

namespace VerificationKey

/-- The label of a point of the row. -/
def icLabel (index : Nat) : String :=
  s!"IC[{index}]"

/-- The wire form of a key: the fixed points, the count and the row. -/
def bytes (key : VerificationKey) : Bytes :=
  key.alpha.bytes ++ key.beta.bytes ++ key.gamma.bytes ++ key.delta.bytes
    ++ Word.bytes Word.countSize key.ic.length ++ key.ic.flatMap G1.bytes

/-- Reads the points of the row in order. -/
def readRow : Nat → List Value → Traced (List G1)
  | _, [] => return []
  | index, source :: rest => do
    let point ← G1.read (some (icLabel index)) source
    let points ← readRow (index + 1) rest
    return point :: points

/-- One point is read for each item. -/
theorem length_readRow {index : Nat} {items : List Value} {points : List G1}
    (done : (readRow index items).result = .ok points) : points.length = items.length := by
  -- A row ends well only when its first point and the rest of it do.
  induction items generalizing index points with
  | nil =>
    simp only [readRow, pure, Except.ok.injEq] at done
    simp [← done]
  | cons source rest ih =>
    simp only [readRow, Bind.bind, Traced.bind] at done
    split at done
    next point _ =>
      split at done
      next tail read =>
        simp only [pure, Except.ok.injEq] at done
        simp [← done, ih read]
      next => simp at done
    next => simp at done

/-- Reads the fixed points, then the row, whose count is checked before its points. -/
def read (source : Value) : Traced VerificationKey := do
  let alpha ← G1.readEntry source "vk_alpha_1"
  let beta ← G2.readEntry source "vk_beta_2"
  let gamma ← G2.readEntry source "vk_gamma_2"
  let delta ← G2.readEntry source "vk_delta_2"
  let row ← Traced.lift (source.entry "IC")
  let items ← Traced.lift (row.array "IC")
  let few ← Traced.lift (Word.fitCount items.length)
  let points := readRow 0 items
  match done : points.result with
  | .ok ic =>
    ⟨points.events, .ok ⟨alpha, beta, gamma, delta, ic, length_readRow done ▸ few.down⟩⟩
  | .error failure => ⟨points.events, .error failure⟩

end VerificationKey

end ProofWire
