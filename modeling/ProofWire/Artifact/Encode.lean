import ProofWire.Artifact.Basic

/-! Encoders: from an untyped value to the bytes of an artifact, or to their text with a report of the size. -/

namespace ProofWire.Encode

/-- The wire form of a G1 point. -/
def g1 (label : Option String) (source : Value) : Traced Bytes := do
  let point ← G1.read label source
  return point.bytes

/-- The wire form of a G2 point. -/
def g2 (label : Option String) (source : Value) : Traced Bytes := do
  let point ← G2.read label source
  return point.bytes

/-- The bytes of a proof. -/
def proofBytes (source : Value) : Traced Bytes := do
  let proof ← Proof.read source
  return proof.bytes

/-- The bytes of public inputs. -/
def publicBytes (source : Value) : Traced Bytes := do
  let inputs ← Traced.lift (PublicInputs.ofValue source)
  return inputs.bytes

/-- The bytes of a verification key. -/
def keyBytes (source : Value) : Traced Bytes := do
  let key ← VerificationKey.read source
  return key.bytes

/-- Bytes as lower-case hexadecimal text. -/
def hexText (content : Bytes) : String :=
  String.ofList (Text.hexOfBytes content)

/-- The text of a proof, after a report of its size. -/
def proof (source : Value) : Traced String := do
  let content ← proofBytes source
  Traced.report ⟨"proof", "encodeProof", s!"{content.length} bytes"⟩
  return hexText content

/-- The text of public inputs, after a report of their number and size. -/
def publicInputs (source : Value) : Traced String := do
  let inputs ← Traced.lift (PublicInputs.ofValue source)
  Traced.report ⟨"public", "encodePublic",
    s!"{inputs.signals.length} signals, {inputs.bytes.length} bytes"⟩
  return hexText inputs.bytes

/-- The text of a verification key, after a report of its size. -/
def key (source : Value) : Traced String := do
  let content ← keyBytes source
  Traced.report ⟨"vk", "encodeVk", s!"{content.length} bytes"⟩
  return hexText content

end ProofWire.Encode
