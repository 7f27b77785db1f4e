import ProofWire.Comparison.Basic

/-! Reports: the comparisons of a proof, of its public inputs and, where one is given, of a verification key. -/

namespace ProofWire

/-- The comparisons of one run. -/
structure Report where
  proof : Comparison
  publicInputs : Comparison
  key : Option Comparison

namespace Report

/-- What is compared: untyped artifacts and the bytes of the reference. -/
structure Subjects where
  proof : Value
  publicInputs : Value
  key : Value
  referenceProof : Bytes
  referencePublic : Bytes
  referenceKey : Option Bytes

/-- No algorithm stands for one. -/
def algorithmsOr (names : List Value) : List Value :=
  if names.isEmpty then [.text Algorithm.sha256.name] else names

/-- The comparison of the verification key, which takes place when both of its sides are given. -/
def buildKey (subjects : Subjects) (names : List Value) : Traced (Option Comparison) :=
  match subjects.key, subjects.referenceKey with
  | .null, _ | _, none => return none
  | source, some reference => do
    let key ← VerificationKey.read source
    let comparison ← Traced.lift
      (Comparison.ofNames key.bytes reference (Layout.key key.ic.length) names)
    return some comparison

/-- Encodes the artifacts in order and compares each with its reference. -/
def build (subjects : Subjects) (algorithms : List Value) : Traced Report := do
  let names := algorithmsOr algorithms
  let proof ← Proof.read subjects.proof
  let proofComparison ← Traced.lift
    (Comparison.ofNames proof.bytes subjects.referenceProof Layout.proof names)
  let inputs ← Traced.lift (PublicInputs.ofValue subjects.publicInputs)
  let publicComparison ← Traced.lift
    (Comparison.ofNames inputs.bytes subjects.referencePublic
      (Layout.publicInputs inputs.signals.length) names)
  let keyComparison ← buildKey subjects names
  return ⟨proofComparison, publicComparison, keyComparison⟩

/-- The comparisons under their names. -/
def named (report : Report) : List (String × Comparison) :=
  [("proof", report.proof), ("publicSignals", report.publicInputs)]
    ++ (report.key.map fun comparison => ("vk", comparison)).toList

/-- Every comparison found the same bytes. -/
def allMatch (report : Report) : Bool :=
  report.named.all (·.2.sameBytes)

/-- A report as a document. -/
def document (report : Report) : Document :=
  .object (report.named.map (fun (name, comparison) => (name, comparison.document))
    ++ [("allMatch", .bool report.allMatch)])

/-- The summaries of all comparisons, each with its line end. -/
def summary (report : Report) : Except Failure String := do
  let parts ← report.named.mapM fun (name, comparison) => comparison.summary name
  return String.join (parts.map (· ++ "\n"))

end Report

end ProofWire
