import ProofWire.Proofs.Artifact.Acceptance
import ProofWire.Proofs.Word

/-! Encoders write one word for each number that their input stands for, in the order of the wire. -/

namespace ProofWire

/-- The numbers of a proof in the order of the wire: the second part of an extension element precedes the first. -/
def ProofWords.inWireOrder (words : ProofWords) : List Nat :=
  [words.a.x, words.a.y, words.b.x1, words.b.x0, words.b.y1, words.b.y0, words.c.x, words.c.y]

/-- The order of the wire leaves out no number. -/
theorem ProofWords.inWireOrder_injective : Function.Injective ProofWords.inWireOrder := by
  -- Every number of a proof is one of the eight.
  rintro ⟨⟨_, _⟩, ⟨_, _, _, _⟩, ⟨_, _⟩⟩ ⟨⟨_, _⟩, ⟨_, _, _, _⟩, ⟨_, _⟩⟩ same
  simp only [inWireOrder, List.cons.injEq, and_true] at same
  obtain ⟨rfl, rfl, rfl, rfl, rfl, rfl, rfl, rfl⟩ := same
  rfl

/-- The wire form of a proof holds one word for each of its numbers. -/
theorem ProofWords.bytes_eq_flatMap (words : ProofWords) :
    words.bytes = words.inWireOrder.flatMap fieldWord := by
  simp [ProofWords.bytes, G1Words.bytes, G2Words.bytes, inWireOrder]

/-- A proof of eight field words takes 256 bytes. -/
@[simp] theorem ProofWords.length_bytes (words : ProofWords) : words.bytes.length = 256 := by
  -- Every word has its width, whatever number it holds.
  simp [bytes_eq_flatMap, inWireOrder, Word.fieldSize]

/-- The numbers of a denoted G1 point lie below the modulus; at infinity they are zero. -/
theorem G1.Denotes.inRange {source : Value} {words : G1Words} (denoted : G1.Denotes source words) :
    words.x < baseModulus ∧ words.y < baseModulus := by
  -- The relation asks for this at an affine point, and zero lies below the modulus.
  cases denoted with
  | infinity => decide
  | affine _ _ _ firstRange _ secondRange => exact ⟨firstRange, secondRange⟩

/-- The numbers of a denoted G2 point lie below the modulus; at infinity they are zero. -/
theorem G2.Denotes.inRange {source : Value} {words : G2Words} (denoted : G2.Denotes source words) :
    words.x0 < baseModulus ∧ words.x1 < baseModulus ∧ words.y0 < baseModulus ∧ words.y1 < baseModulus := by
  -- The relation asks for this at an affine point, and zero lies below the modulus.
  cases denoted with
  | infinity => decide
  | affine _ _ _ _ _ _ _ first0Range _ first1Range _ second0Range _ second1Range =>
    exact ⟨first0Range, first1Range, second0Range, second1Range⟩

/-- Every number of a denoted proof lies below the modulus of coordinates. -/
theorem Proof.Denotes.inRange {source : Value} {words : ProofWords} (denoted : Proof.Denotes source words) :
    ∀ number ∈ words.inWireOrder, number < baseModulus := by
  -- The three points contribute two, four and two of the eight numbers.
  obtain ⟨_, _, a⟩ := denoted.a
  obtain ⟨_, _, b⟩ := denoted.b
  obtain ⟨_, _, c⟩ := denoted.c
  have a := a.inRange
  have b := b.inRange
  have c := c.inRange
  intro number member
  simp only [ProofWords.inWireOrder, List.mem_cons, List.not_mem_nil, or_false] at member
  omega

/-- The numbers of public inputs lie below the modulus, and there are few enough of them for the count. -/
theorem PublicInputs.Denotes.inRange {source : Value} {numbers : List Nat}
    (denoted : PublicInputs.Denotes source numbers) :
    numbers.length < Word.countBound ∧ ∀ number ∈ numbers, number < scalarModulus := by
  -- There are as many numbers as items, and each is the number of a scalar.
  obtain ⟨_, read, few⟩ := denoted
  refine ⟨read.length_eq ▸ few, fun number member => ?_⟩
  obtain ⟨signals, _, rfl⟩ := PublicInputs.forall_natural_iff.mp read
  obtain ⟨signal, _, rfl⟩ := List.mem_map.mp member
  exact signal.inRange

/--
A proof is encoded exactly when it stands for eight coordinates, and then as their checked words in wire order.

Values that stand for the same coordinates have the same encoding, however their literals are spelled.
-/
theorem proof_encoding_iff (source : Value) :
    (∀ content, (Encode.proofBytes source).result = .ok content ↔
      ∃ words, Proof.Denotes source words ∧ content = words.inWireOrder.flatMap fieldWord) ∧
    (∀ words, Proof.Denotes source words →
      (words.inWireOrder.flatMap fieldWord).length = 256 ∧
      ∀ number ∈ words.inWireOrder, number < baseModulus ∧
        Word.field (.int number) = .ok (fieldWord number) ∧ Word.value (fieldWord number) = number) ∧
    ∀ other words, Proof.Denotes source words → Proof.Denotes other words →
      (Encode.proofBytes other).result = (Encode.proofBytes source).result := by
  refine ⟨?_, ?_, ?_⟩
  · intro content
    simp only [Encode.proofBytes_eq_ok_iff, ProofWords.bytes_eq_flatMap]
  · intro words denoted
    refine ⟨by rw [← words.bytes_eq_flatMap, words.length_bytes], ?_⟩
    intro number member
    have inRange := denoted.inRange number member
    have fits : number < Word.fieldBound := Nat.lt_trans inRange Word.baseModulus_lt_fieldBound
    exact ⟨inRange, Word.field_of_fits fits, Word.value_bytes _ _ fits⟩
  · -- Both values are encoded as the words of the shared coordinates.
    intro other words denoted otherDenoted
    have written := Encode.proofBytes_eq_ok_iff.mpr ⟨words, denoted, rfl⟩
    have otherWritten := Encode.proofBytes_eq_ok_iff.mpr ⟨words, otherDenoted, rfl⟩
    rw [written, otherWritten]

/-- A proof whose literals are texts, fractions and doubles; the point at infinity holds no coordinates. -/
def mixedProof : Value :=
  .object [
    ("pi_a", .list [.bool true, .bytes [], .literal (.unitFraction 0)]),
    ("pi_b", .tuple [.list [.text "007", .tuple [.int 8, .text "1", .null]],
      .list [.float ⟨0x4022000000000000⟩, .literal (.integer 10)], .list [.text "1", .text "00"]]),
    ("pi_c", .list [.text "0x1F", .text "0X00", .float ⟨0x3ff0000000000000⟩])]

/-- The same proof in whole numbers. -/
def plainProof : Value :=
  .object [
    ("pi_a", .list [.int 0, .int 0, .int 0]),
    ("pi_b", .list [.list [.int 7, .int 8], .list [.int 9, .int 10], .list [.int 1, .int 0]]),
    ("pi_c", .list [.int 31, .int 0, .int 1])]

/-- The numbers of both proofs. -/
def sharedWords : ProofWords :=
  ⟨⟨0, 0⟩, ⟨7, 8, 9, 10⟩, ⟨31, 0⟩⟩

/-- The mixed spellings stand for the shared numbers. -/
theorem mixedProof_denotes : Proof.Denotes mixedProof sharedWords where
  -- Each spelling is read by computation, and each number is below the modulus.
  a := ⟨_, ⟨_, rfl, rfl⟩, .infinity rfl rfl⟩
  b := ⟨_, ⟨_, rfl, rfl⟩, .affine rfl rfl rfl rfl rfl rfl
    rfl (by decide) rfl (by decide) rfl (by decide) rfl (by decide)⟩
  c := ⟨_, ⟨_, rfl, rfl⟩, .affine rfl rfl rfl (by decide) rfl (by decide)⟩

/-- The whole numbers stand for the shared numbers. -/
theorem plainProof_denotes : Proof.Denotes plainProof sharedWords where
  -- Each number stands for itself, and it is below the modulus.
  a := ⟨_, ⟨_, rfl, rfl⟩, .infinity rfl rfl⟩
  b := ⟨_, ⟨_, rfl, rfl⟩, .affine rfl rfl rfl rfl rfl rfl
    rfl (by decide) rfl (by decide) rfl (by decide) rfl (by decide)⟩
  c := ⟨_, ⟨_, rfl, rfl⟩, .affine rfl rfl rfl (by decide) rfl (by decide)⟩

/-- The two spellings of one proof have one encoding, which both of them reach. -/
theorem proof_encoding_iff_two_spellings :
    (∃ content, (Encode.proofBytes mixedProof).result = .ok content) ∧
      (Encode.proofBytes plainProof).result = (Encode.proofBytes mixedProof).result :=
  ⟨⟨_, ((proof_encoding_iff mixedProof).1 _).mpr ⟨sharedWords, mixedProof_denotes, rfl⟩⟩,
    (proof_encoding_iff mixedProof).2.2 plainProof sharedWords mixedProof_denotes plainProof_denotes⟩

end ProofWire
