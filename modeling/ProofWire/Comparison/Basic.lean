import ProofWire.Hash.Basic
import ProofWire.Json.Document
import ProofWire.Layout.Basic

/-! Comparisons: an artifact beside the bytes of a reference, and where the two part. -/

namespace ProofWire

/-- The place of the first difference between two rows: that of a different item, or the end of the shorter row. -/
def firstDifference [DecidableEq α] : List α → List α → Option Nat
  | [], [] => none
  | [], _ :: _ | _ :: _, [] => some 0
  | first :: left, second :: right =>
    if first = second then (firstDifference left right).map (· + 1) else some 0

/-- What a comparison found: lengths, digests under the names of their algorithms, and the first difference as a
place in the hexadecimal text and as a field. -/
structure Comparison where
  oursLength : Int
  referenceLength : Int
  sameBytes : Bool
  oursDigests : List (String × String)
  referenceDigests : List (String × String)
  firstNibble : Option Int
  firstField : Option String

namespace Comparison

/-- Digests by name; an algorithm named twice shows once. -/
def digests (content : Bytes) : List Algorithm → List (String × String)
  | [] => []
  | algorithm :: rest =>
    (algorithm.name, algorithm.hexDigest content) ::
      (digests content rest).filter (·.1 != algorithm.name)

/-- The place of the first difference in the hexadecimal texts of two contents. -/
def firstNibble? (ours reference : Bytes) : Option Nat :=
  firstDifference (Text.hexOfBytes ours) (Text.hexOfBytes reference)

/-- Compares two contents under a layout. -/
def ofContents (ours reference : Bytes) (layout : List Slot) (algorithms : List Algorithm) : Comparison :=
  let nibble := firstNibble? ours reference
  { oursLength := ours.length
    referenceLength := reference.length
    sameBytes := ours == reference
    oursDigests := digests ours algorithms
    referenceDigests := digests reference algorithms
    firstNibble := nibble.map Int.ofNat
    firstField := nibble.bind fun place => Layout.locate layout (place / 2 : Nat) }

/-- Compares two contents, the algorithms given by values that name them. -/
def ofNames (ours reference : Bytes) (layout : List Slot) (names : List Value) :
    Except Failure Comparison := do
  let algorithms ← names.mapM Algorithm.ofValue
  return ofContents ours reference layout algorithms

/-- Text filled up with blanks to a width. -/
def padded (width : Nat) (text : String) : String :=
  text ++ String.ofList (List.replicate (width - text.length) ' ')

/-- The name of a truth value. -/
def flagText (flag : Bool) : String :=
  if flag then "True" else "False"

/-- The two lines of each digest. -/
def digestLines (reference : List (String × String)) : List (String × String) → Except Failure (List String)
  | [] => .ok []
  | (name, digest) :: rest =>
    match reference.lookup name with
    | none => .error .missingKey
    | some other => do
      let lines ← digestLines reference rest
      return ("  " ++ padded 19 (name ++ ":") ++ "ours " ++ digest) ::
        ("  " ++ padded 19 "" ++ "ref  " ++ other) :: lines

/-- A number in a summary. -/
def numberText (number : Int) : Except Failure String :=
  match Text.decimal? number with
  | some text => .ok text
  | none => .error (.digits none)

/-- The summary of a comparison, line by line. -/
def summary (name : String) (comparison : Comparison) : Except Failure String := do
  let ours ← numberText comparison.oursLength
  let reference ← numberText comparison.referenceLength
  let digests ← digestLines comparison.referenceDigests comparison.oursDigests
  let nibble ← match comparison.firstNibble with
    | some place => numberText place
    | none => .ok "None"
  let lines := [
    name ++ " bytes match: " ++ flagText comparison.sameBytes,
    "  length:            ours " ++ ours ++ ", reference " ++ reference] ++ digests ++ [
    "  firstDiffNibble:   " ++ nibble,
    "  firstDiffField:    " ++ comparison.firstField.getD "None"]
  return "\n".intercalate lines

/-- Digests as a document. -/
def digestDocument (digests : List (String × String)) : Document :=
  .object (digests.map fun (name, digest) => (name, .text digest))

/-- A comparison as a document. -/
def document (comparison : Comparison) : Document :=
  .object [
    ("oursLen", .number comparison.oursLength),
    ("referenceLen", .number comparison.referenceLength),
    ("sameBytes", .bool comparison.sameBytes),
    ("oursHashes", digestDocument comparison.oursDigests),
    ("referenceHashes", digestDocument comparison.referenceDigests),
    ("firstDiffNibble", (comparison.firstNibble.map Document.number).getD .null),
    ("firstDiffField", (comparison.firstField.map Document.text).getD .null)]

end Comparison

end ProofWire
