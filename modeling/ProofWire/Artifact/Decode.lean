import ProofWire.Artifact.Encode
import ProofWire.Text.Blank

/-! Decoders: from the bytes of an artifact, or their text, back to its numbers. -/

namespace ProofWire.Decode

/-- The bytes of hexadecimal text, blanks around it and at most two marks aside. The failure tells the length after
the first mark, in lower case. -/
def hexText (text : String) : Except Failure Bytes :=
  let body := Text.dropMark (Text.strip text.toList)
  match Text.bytesOfHex? (Text.dropMark body) with
  | some content => .ok content
  | none => .error (Cause.malformedHex (Text.lowerLength body)).raise

/-- Bytes as they are, or from their text. -/
def bytes : Value → Except Failure Bytes
  | .bytes content => .ok content
  | .text text => hexText text
  | _ => .error .noSuchOperation

/-- The text of bytes with its mark. -/
def markedText (content : Bytes) : String :=
  "0x" ++ Encode.hexText content

/-- The number in the field word at an offset. -/
def wordAt (content : Bytes) (offset : Nat) : Nat :=
  Word.value ((content.drop offset).take Word.fieldSize)

/-- The bytes of a G1 point. -/
def g1Size : Nat := 2 * Word.fieldSize

/-- The bytes of a G2 point. -/
def g2Size : Nat := 4 * Word.fieldSize

/-- The bytes of a proof. -/
def proofSize : Nat := g1Size + g2Size + g1Size

/-- The numbers of a G1 point at an offset. -/
def g1At (content : Bytes) (offset : Nat) : G1Words :=
  ⟨wordAt content offset, wordAt content (offset + Word.fieldSize)⟩

/-- The numbers of a G2 point at an offset, in their natural order. -/
def g2At (content : Bytes) (offset : Nat) : G2Words :=
  ⟨wordAt content (offset + Word.fieldSize), wordAt content offset,
    wordAt content (offset + 3 * Word.fieldSize), wordAt content (offset + 2 * Word.fieldSize)⟩

/-- The numbers of a proof. -/
def proof (source : Value) : Except Failure ProofWords := do
  let content ← bytes source
  if content.length = proofSize then
    return ⟨g1At content 0, g2At content g1Size, g1At content (g1Size + g2Size)⟩
  else .error (Cause.proofLength content.length).raise

/-- The numbers of public inputs; the count has to fit the length. -/
def publicInputs (source : Value) : Except Failure (List Nat) := do
  let content ← bytes source
  if content.length < Word.countSize then .error (Cause.publicTooShort content.length).raise
  else
    let count := Word.value (content.take Word.countSize)
    let expected := Word.countSize + Word.fieldSize * count
    if content.length = expected then
      return (List.range count).map fun index =>
        wordAt content (Word.countSize + index * Word.fieldSize)
    else .error (Cause.publicLength count expected content.length).raise

/-- A number as decimal text. -/
def decimal (number : Nat) : Value :=
  .text (toString number)

/-- A G1 point as a list of decimal texts. -/
def g1Document (words : G1Words) : Value :=
  .list [decimal words.x, decimal words.y]

/-- A G2 point as lists of decimal texts. -/
def g2Document (words : G2Words) : Value :=
  .list [.list [decimal words.x0, decimal words.x1], .list [decimal words.y0, decimal words.y1]]

/-- A proof as an object of decimal texts. -/
def proofDocument (words : ProofWords) : Value :=
  .object [("pi_a", g1Document words.a), ("pi_b", g2Document words.b), ("pi_c", g1Document words.c)]

/-- Public inputs as a list of decimal texts. -/
def publicDocument (signals : List Nat) : Value :=
  .list (signals.map decimal)

end ProofWire.Decode
