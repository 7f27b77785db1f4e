import ProofWire.Artifact.Encode
import ProofWire.Hash.Keccak
import ProofWire.Hash.Sha256

/-! Digest algorithms by name. -/

namespace ProofWire

/-- The digest algorithms that a comparison can use. -/
inductive Algorithm where
  | sha256
  | keccak
deriving DecidableEq

namespace Algorithm

/-- The name of an algorithm. -/
def name : Algorithm → String
  | .sha256 => "sha256"
  | .keccak => "keccak"

/-- The algorithm of a name. -/
def ofName? : String → Option Algorithm
  | "sha256" => some .sha256
  | "keccak" => some .keccak
  | _ => none

/-- A name leads back to its algorithm. -/
theorem ofName?_name (algorithm : Algorithm) : ofName? algorithm.name = some algorithm := by
  -- There are two algorithms.
  cases algorithm <;> rfl

/-- The algorithm that a value names. -/
def ofValue? : Value → Option Algorithm
  | .text name => ofName? name
  | _ => none

/-- The digest of a content. -/
def digest : Algorithm → Bytes → Bytes
  | .sha256 => Sha256.digest
  | .keccak => Keccak.digest

/-- The algorithm that a value names, or the failure that shows the value. -/
def ofValue (named : Value) : Except Failure Algorithm :=
  match ofValue? named, named.shown? with
  | some algorithm, _ => .ok algorithm
  | none, some name => .error (.unsupportedAlgorithm name)
  | none, none => .error (.digits none)

/-- The digest of a content as text. -/
def hexDigest (algorithm : Algorithm) (content : Bytes) : String :=
  Encode.hexText (algorithm.digest content)

end Algorithm

end ProofWire
