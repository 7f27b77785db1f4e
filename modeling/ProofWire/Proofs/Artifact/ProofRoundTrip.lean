import ProofWire.Proofs.Artifact.Encoding
import ProofWire.Proofs.Artifact.Slices

/-! Decoding a proof and encoding it undo each other, and where they cannot, the first coordinate that is too large
is named. -/

namespace ProofWire

namespace Decode

/-- The numbers in the eight words of a proof. -/
def proofWords (content : Bytes) : ProofWords :=
  ⟨g1At content 0, g2At content g1Size, g1At content (g1Size + g2Size)⟩

/-- The words of a proof are the slices of its bytes, one after the other. -/
theorem inWireOrder_proofWords (content : Bytes) :
    (proofWords content).inWireOrder
      = (List.range 8).map fun place => wordAt content (0 + place * Word.fieldSize) := by
  rfl

/-- A proof whose bytes are given is decoded from them when they have its size. -/
theorem proof_of_bytes {given : Value} {content : Bytes} (read : bytes given = .ok content)
    (sized : content.length = proofSize) : Decode.proof given = .ok (proofWords content) := by
  simp only [Decode.proof, read, Bind.bind, Except.bind, if_pos sized]
  rfl

/-- The words that were decoded make up the bytes again. -/
theorem bytes_proofWords {content : Bytes} (sized : content.length = 256) :
    (proofWords content).bytes = content := by
  rw [ProofWords.bytes_eq_flatMap, inWireOrder_proofWords, flatMap_wordAt (by rw [sized]; rfl), List.drop_zero]

/-- The numbers of bounded words are decoded from their bytes. -/
theorem proofWords_bytes {words : ProofWords} (fits : ∀ number ∈ words.inWireOrder, number < Word.fieldBound) :
    proofWords words.bytes = words := by
  -- Each number of the eight stands in its own slice.
  apply ProofWords.inWireOrder_injective
  rw [inWireOrder_proofWords, ProofWords.bytes_eq_flatMap]
  apply List.ext_getElem
  · simp [ProofWords.inWireOrder]
  · intro place _ inside
    rw [List.getElem_map, List.getElem_range]
    have slice := wordAt_flatMap [] fits inside
    rwa [List.nil_append, List.length_nil] at slice

/-- A list with one more item at its end. -/
def extended (scale : Value) : Value → Value
  | .list items => .list (items ++ [scale])
  | other => other

/-- The scale that makes the point under a key of a proof an affine one. -/
def affineScale (key : String) : Value :=
  if key = "pi_b" then .list [.text "1", .text "0"] else .text "1"

/-- A decoded proof whose points have got the scale of affine ones. -/
def withScales : Value → Value
  | .object entries => .object (entries.map fun (key, point) => (key, extended (affineScale key) point))
  | other => other

end Decode

/-- A number that no coordinate can be. -/
def isTooLarge (named : String × Nat) : Bool :=
  baseModulus ≤ named.2

/-- Named numbers pass when all of them are coordinates; otherwise the first that is none decides the failure. -/
def passAll (named : List (String × Nat)) : Except Failure Unit :=
  match named.find? isTooLarge with
  | none => .ok ()
  | some (label, number) => .error (Cause.coordinateOutOfRange number label).raise

/-- Named numbers pass one row after the other. -/
theorem passAll_append (first second : List (String × Nat)) :
    passAll (first ++ second) = passAll first >>= fun _ => passAll second := by
  -- The first number that is too large is that of the first row, if there is one.
  unfold passAll
  rw [List.find?_append]
  cases found : first.find? isTooLarge <;> simp [Bind.bind, Except.bind]

/-- A single number passes when it is a coordinate. -/
theorem passAll_cons (label : String) (number : Nat) (rest : List (String × Nat)) :
    passAll ((label, number) :: rest) =
      if number < baseModulus then passAll rest
      else .error (Cause.coordinateOutOfRange number label).raise := by
  -- The search ends at the number or goes on behind it.
  by_cases small : number < baseModulus
  · have kept : isTooLarge (label, number) = false := by simp [isTooLarge, small]
    simp [passAll, kept, small]
  · have refused : isTooLarge (label, number) = true := by simpa [isTooLarge] using small
    simp [passAll, refused, small]

/-- The coordinate of a written number is that number, or the failure to be one. -/
theorem Point.coordinate_decimal {label : Option String} {part : String} {number : Nat}
    (bounded : number < Text.decimalBound) :
    Point.coordinate label part (Decode.decimal number) =
      if inRange : number < baseModulus then .ok ⟨number, inRange⟩
      else .error (Cause.coordinateOutOfRange number (Point.partLabel label part)).raise := by
  -- A written number is read back as itself, so that only its size is left to check.
  simp only [Point.coordinate, Coordinate.ofValue, Decode.natural_decimal bounded, located, Bind.bind,
    Except.bind]
  rfl

/-- The coordinates of a G1 point under their names. -/
def G1Words.named (label : Option String) (words : G1Words) : List (String × Nat) :=
  [(Point.partLabel label "x", words.x), (Point.partLabel label "y", words.y)]

/-- The coordinates of a G2 point under their names, in their natural order. -/
def G2Words.named (label : Option String) (words : G2Words) : List (String × Nat) :=
  [(Point.partLabel label "x0", words.x0), (Point.partLabel label "x1", words.x1),
    (Point.partLabel label "y0", words.y0), (Point.partLabel label "y1", words.y1)]

/-- An affine G1 point of written numbers is read when they are coordinates. -/
theorem G1.words_ofValue_decimal {label : Option String} {words : G1Words}
    (xBounded : words.x < Text.decimalBound) (yBounded : words.y < Text.decimalBound) :
    G1.words <$> G1.ofValue label (Decode.extended (.text "1") (Decode.g1Document words)) =
      passAll (words.named label) >>= fun _ => .ok words := by
  have one : (Value.text "1").natural = .ok 1 := rfl
  simp only [Decode.g1Document, Decode.extended, List.cons_append, List.nil_append, G1.ofValue, Value.items?,
    Point.scale_eq_ok_iff.mpr one, G1Words.named, passAll_cons, Point.coordinate_decimal xBounded,
    Point.coordinate_decimal yBounded]
  -- The first number that is too large ends the reading on both sides.
  by_cases x : words.x < baseModulus
  · by_cases y : words.y < baseModulus
    · simp [x, y, passAll, Bind.bind, Except.bind, pure, Except.pure, Functor.map, Except.map, G1.words]
    · simp [x, y, Bind.bind, Except.bind, Functor.map, Except.map]
  · simp [x, Bind.bind, Except.bind, Functor.map, Except.map]

/-- An affine G2 point of written numbers is read when they are coordinates, tested in their natural order. -/
theorem G2.words_ofValue_decimal {label : Option String} {words : G2Words}
    (x0Bounded : words.x0 < Text.decimalBound) (x1Bounded : words.x1 < Text.decimalBound)
    (y0Bounded : words.y0 < Text.decimalBound) (y1Bounded : words.y1 < Text.decimalBound) :
    G2.words <$> G2.ofValue label
        (Decode.extended (.list [.text "1", .text "0"]) (Decode.g2Document words)) =
      passAll (words.named label) >>= fun _ => .ok words := by
  have one : (Value.text "1").natural = .ok 1 := rfl
  have zero : (Value.text "0").natural = .ok 0 := rfl
  simp only [Decode.g2Document, Decode.extended, List.cons_append, List.nil_append, G2.ofValue, Value.items?,
    Point.scale_eq_ok_iff.mpr one, Point.scale_eq_ok_iff.mpr zero, G2Words.named, passAll_cons,
    Point.coordinate_decimal x0Bounded, Point.coordinate_decimal x1Bounded,
    Point.coordinate_decimal y0Bounded, Point.coordinate_decimal y1Bounded]
  -- The first number that is too large ends the reading on both sides.
  by_cases x0 : words.x0 < baseModulus
  · by_cases x1 : words.x1 < baseModulus
    · by_cases y0 : words.y0 < baseModulus
      · by_cases y1 : words.y1 < baseModulus
        · simp [x0, x1, y0, y1, passAll, Bind.bind, Except.bind, pure, Except.pure, Functor.map, Except.map,
            G2.words]
        · simp [x0, x1, y0, y1, Bind.bind, Except.bind, Functor.map, Except.map]
      · simp [x0, x1, y0, Bind.bind, Except.bind, Functor.map, Except.map]
    · simp [x0, x1, Bind.bind, Except.bind, Functor.map, Except.map]
  · simp [x0, Bind.bind, Except.bind, Functor.map, Except.map]

/-- The coordinates of a proof under their names, in the order in which they are tested. -/
def ProofWords.named (words : ProofWords) : List (String × Nat) :=
  [("pi_a.x", words.a.x), ("pi_a.y", words.a.y),
    ("pi_b.x0", words.b.x0), ("pi_b.x1", words.b.x1), ("pi_b.y0", words.b.y0), ("pi_b.y1", words.b.y1),
    ("pi_c.x", words.c.x), ("pi_c.y", words.c.y)]

/-- The named coordinates of a proof are those of its points, one after the other. -/
theorem ProofWords.named_eq_append (words : ProofWords) :
    words.named = words.a.named (some "pi_a") ++ words.b.named (some "pi_b") ++ words.c.named (some "pi_c") := by
  rfl

/-- What becomes of a proof depends on its points only through their numbers. -/
theorem Encode.result_proofBytes (source : Value) :
    (Encode.proofBytes source).result = do
      let a ← G1.words <$> (G1.readEntry source "pi_a").result
      let b ← G2.words <$> (G2.readEntry source "pi_b").result
      let c ← G1.words <$> (G1.readEntry source "pi_c").result
      return (ProofWords.mk a b c).bytes := by
  simp only [Encode.proofBytes, Proof.read, Traced.result_bind, Traced.result_pure]
  -- A failure stops both sides at the same point.
  cases (G1.readEntry source "pi_a").result with
  | error failure => rfl
  | ok a =>
    cases (G2.readEntry source "pi_b").result with
    | error failure => rfl
    | ok b =>
      cases (G1.readEntry source "pi_c").result with
      | error failure => rfl
      | ok c => simp [Bind.bind, Except.bind, Functor.map, Except.map, pure, Except.pure, Proof.bytes, Proof.words]

/-- The points of a decoded proof are found under their keys, each with its scale. -/
theorem Decode.entry_withScales (words : ProofWords) :
    (withScales (proofDocument words)).entry "pi_a" = .ok (extended (.text "1") (g1Document words.a)) ∧
    (withScales (proofDocument words)).entry "pi_b" =
      .ok (extended (.list [.text "1", .text "0"]) (g2Document words.b)) ∧
    (withScales (proofDocument words)).entry "pi_c" = .ok (extended (.text "1") (g1Document words.c)) := by
  refine ⟨?_, ?_, ?_⟩ <;>
    simp [withScales, proofDocument, Value.entry, affineScale, List.lookup]

/-- A decoded proof with affine scales is encoded when its numbers are coordinates, tested in their natural order. -/
theorem Encode.result_proofBytes_withScales {words : ProofWords}
    (bounded : ∀ number ∈ words.inWireOrder, number < Text.decimalBound) :
    (Encode.proofBytes (Decode.withScales (Decode.proofDocument words))).result =
      passAll words.named >>= fun _ => .ok words.bytes := by
  simp only [ProofWords.inWireOrder, List.forall_mem_cons] at bounded
  obtain ⟨ax, ay, bx1, bx0, by1, by0, cx, cy, _⟩ := bounded
  -- Each point is read as its own numbers, or fails at the first that is too large.
  obtain ⟨aEntry, bEntry, cEntry⟩ := Decode.entry_withScales words
  have a : G1.words <$> (G1.readEntry (Decode.withScales (Decode.proofDocument words)) "pi_a").result =
      passAll (words.a.named (some "pi_a")) >>= fun _ => .ok words.a := by
    rw [← G1.words_ofValue_decimal ax ay, G1.result_readEntry, aEntry]
    simp only [Bind.bind, Except.bind]
  have b : G2.words <$> (G2.readEntry (Decode.withScales (Decode.proofDocument words)) "pi_b").result =
      passAll (words.b.named (some "pi_b")) >>= fun _ => .ok words.b := by
    rw [← G2.words_ofValue_decimal bx0 bx1 by0 by1, G2.result_readEntry, bEntry]
    simp only [Bind.bind, Except.bind]
  have c : G1.words <$> (G1.readEntry (Decode.withScales (Decode.proofDocument words)) "pi_c").result =
      passAll (words.c.named (some "pi_c")) >>= fun _ => .ok words.c := by
    rw [← G1.words_ofValue_decimal cx cy, G1.result_readEntry, cEntry]
    simp only [Bind.bind, Except.bind]
  rw [Encode.result_proofBytes, a, b, c, ProofWords.named_eq_append, passAll_append, passAll_append]
  -- A failure stops both sides at the same point.
  cases passAll (words.a.named (some "pi_a")) with
  | error failure => rfl
  | ok _ =>
    cases passAll (words.b.named (some "pi_b")) with
    | error failure => rfl
    | ok _ =>
      cases passAll (words.c.named (some "pi_c")) with
      | error failure => rfl
      | ok _ => rfl

/-- The words of 256 bytes under the names of the coordinates that they hold, in the order of the tests. -/
def Decode.namedWords (content : Bytes) : List (String × Nat) :=
  [("pi_a.x", wordAt content 0), ("pi_a.y", wordAt content 32),
    ("pi_b.x0", wordAt content 96), ("pi_b.x1", wordAt content 64),
    ("pi_b.y0", wordAt content 160), ("pi_b.y1", wordAt content 128),
    ("pi_c.x", wordAt content 192), ("pi_c.y", wordAt content 224)]

/-- The failure of a coordinate that lies beyond the modulus, with its label, its number and the modulus. -/
def Fault.outOfRange (label : String) (number : Nat) : Fault :=
  ⟨.coordinateOutOfRange, s!"coordinate {number} >= modulus {baseModulus}",
    [("label", .text label), ("value", .int number), ("modulus", .int baseModulus)]⟩

/-- The failure of a written coordinate is classified, for its number can be written in the message. -/
theorem Cause.raise_coordinateOutOfRange {number : Nat} (label : String) (bounded : number < Text.decimalBound) :
    (Cause.coordinateOutOfRange number label).raise = .classified (Fault.outOfRange label number) := by
  -- The message has a text because the number has one.
  apply Cause.raise_eq_classified (.coordinateOutOfRange number label)
  simp only [Cause.message?, Text.decimal?_natCast bounded]
  rfl

/-- Every named word fits a field word. -/
theorem Decode.namedWords_lt (content : Bytes) : ∀ named ∈ namedWords content, named.2 < Word.fieldBound := by
  simp only [namedWords, List.forall_mem_cons, wordAt_lt, List.not_mem_nil, false_implies, implies_true,
    and_self]

/-- Decoded bytes with affine scales are encoded into the same bytes when all words are coordinates, and otherwise
fail at the first that is none. -/
theorem Encode.result_proofBytes_proofWords {content : Bytes} (sized : content.length = 256) :
    (Encode.proofBytes (Decode.withScales (Decode.proofDocument (Decode.proofWords content)))).result =
      match (Decode.namedWords content).find? isTooLarge with
      | none => .ok content
      | some (label, number) => .error (.classified (Fault.outOfRange label number)) := by
  have fits : ∀ number ∈ (Decode.proofWords content).inWireOrder, number < Text.decimalBound := by
    rw [Decode.inWireOrder_proofWords]
    intro number member
    obtain ⟨place, _, rfl⟩ := List.mem_map.mp member
    exact Nat.lt_of_lt_of_le (Decode.wordAt_lt _ _) Text.fieldBound_le_decimalBound
  have names : (Decode.proofWords content).named = Decode.namedWords content := rfl
  rw [Encode.result_proofBytes_withScales fits, Decode.bytes_proofWords sized, names, passAll]
  cases found : (Decode.namedWords content).find? isTooLarge with
  | none => rfl
  | some named =>
    -- A word can always be written in the message, so the failure is a classified one.
    have bounded := Nat.lt_of_lt_of_le (Decode.namedWords_lt content named (List.mem_of_find?_eq_some found))
      Text.fieldBound_le_decimalBound
    simp only [Cause.raise_coordinateOutOfRange named.1 bounded, Bind.bind, Except.bind]

/--
Decoding a proof and encoding it undo each other.

An encoded proof is decoded, from its bytes and from every spelling of them, into the canonical numerals of its
coordinates in their natural order. Any 256 bytes are decoded and, with affine scales, encoded again: into the same
bytes when all words are coordinates, and otherwise with the failure of the first one that is none.
-/
theorem proof_decoding_inverts_encoding :
    (∀ source content, (Encode.proofBytes source).result = .ok content →
      ∃ words, Proof.Denotes source words ∧
        (∀ number ∈ words.inWireOrder, ∃ text, Decode.decimal number = .text text ∧
          Text.IsCanonical text number) ∧
        (Encode.proof source).result = .ok (Encode.hexText content) ∧
        Decode.Carries content (.text (Encode.hexText content)) ∧
        ∀ given, Decode.Carries content given → Decode.proofDocument <$> Decode.proof given = .ok (.object [
          ("pi_a", .list [Decode.decimal words.a.x, Decode.decimal words.a.y]),
          ("pi_b", .list [.list [Decode.decimal words.b.x0, Decode.decimal words.b.x1],
            .list [Decode.decimal words.b.y0, Decode.decimal words.b.y1]]),
          ("pi_c", .list [Decode.decimal words.c.x, Decode.decimal words.c.y])])) ∧
    ∀ content : Bytes, content.length = 256 →
      ∃ document, Decode.proofDocument <$> Decode.proof (.bytes content) = .ok document ∧
        (Encode.proofBytes (Decode.withScales document)).result =
          match (Decode.namedWords content).find? fun named => baseModulus ≤ named.2 with
          | none => .ok content
          | some (label, number) => .error (.classified (Fault.outOfRange label number)) := by
  constructor
  · -- The words of an accepted proof fit, so they are read back from their own bytes.
    intro source content encoded
    obtain ⟨words, denoted, written⟩ := Encode.proofBytes_eq_ok_iff.mp encoded
    have fits : ∀ number ∈ words.inWireOrder, number < Word.fieldBound := fun number member =>
      Nat.lt_trans (denoted.inRange number member) Word.baseModulus_lt_fieldBound
    refine ⟨words, denoted, fun number _ => ⟨_, rfl, Text.isCanonical_toString number⟩, ?_,
      .text (Text.spells_hexText _), ?_⟩
    · simp only [Encode.proof, Traced.result_bind, encoded, Traced.result_report, Traced.result_pure]
      rfl
    · intro given carried
      have sized : content.length = Decode.proofSize := by rw [written]; exact words.length_bytes
      have decoded : Decode.proof given = .ok words := by
        rw [Decode.proof_of_bytes (Decode.bytes_of_carries carried) sized, written, Decode.proofWords_bytes fits]
      rw [decoded]
      rfl
  · -- Any bytes of the right length are decoded, and only the range of their words decides what follows.
    intro content sized
    have decoded : Decode.proof (.bytes content) = .ok (Decode.proofWords content) :=
      Decode.proof_of_bytes rfl sized
    exact ⟨_, by rw [decoded]; rfl, Encode.result_proofBytes_proofWords sized⟩

/-- Bytes whose two words for the first coordinate of the second point are both too large. -/
def oversized : Bytes :=
  List.replicate 64 0 ++ List.replicate 64 255 ++ List.replicate 128 0

/-- The mixed spellings come back as numerals, and of two words that are too large the later one is named. -/
theorem proof_decoding_inverts_encoding_mixed_and_oversized :
    (∃ words, Proof.Denotes mixedProof words ∧
      Decode.proofDocument <$> Decode.proof (.bytes sharedWords.bytes) = .ok (Decode.proofDocument words)) ∧
    ∃ document, Decode.proofDocument <$> Decode.proof (.bytes oversized) = .ok document ∧
      (Encode.proofBytes (Decode.withScales document)).result =
        .error (.classified (Fault.outOfRange "pi_b.x0" (Word.fieldBound - 1))) := by
  constructor
  · have encoded := Encode.proofBytes_eq_ok_iff.mpr ⟨sharedWords, mixedProof_denotes, rfl⟩
    obtain ⟨words, denoted, _, _, _, decoded⟩ := proof_decoding_inverts_encoding.1 mixedProof _ encoded
    exact ⟨words, denoted, decoded _ .bytes⟩
  · have sized : oversized.length = 256 := by
      simp only [oversized, List.length_append, List.length_replicate]
    obtain ⟨document, decoded, refused⟩ := proof_decoding_inverts_encoding.2 oversized sized
    -- The word for the second part lies in front of the one for the first and is as large.
    have first : (Decode.namedWords oversized).find? (fun named => baseModulus ≤ named.2)
        = some ("pi_b.x0", Word.fieldBound - 1) := by decide
    rw [first] at refused
    exact ⟨document, decoded, refused⟩

end ProofWire
