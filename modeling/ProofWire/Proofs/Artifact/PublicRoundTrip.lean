import ProofWire.Proofs.Artifact.Encoding
import ProofWire.Proofs.Artifact.Slices
import ProofWire.Proofs.Text.Numeral

/-! Decoding public inputs and encoding them undo each other, and the declared count is always the number of words. -/

namespace ProofWire

namespace PublicInputs

/-- The numbers of public inputs are those of their items, as many and in the same order. -/
theorem Denotes.natural_items {source : Value} {numbers : List Nat} (denoted : Denotes source numbers) :
    ∃ items, source.items? = some items ∧ items.length = numbers.length ∧
      items.map Value.natural = numbers.map .ok := by
  obtain ⟨given, read, few⟩ := denoted
  refine ⟨_, given, read.length_eq, ?_⟩
  -- Each item denotes its number.
  clear given few
  induction read with
  | nil => rfl
  | cons first _ ih => rw [List.map_cons, List.map_cons, first.1, ih]

/-- Items that are scalars, few enough for the count, stand for public inputs. -/
theorem exists_denotes {source : Value} {items : List Value} (given : source.items? = some items)
    (few : items.length < Word.countBound) (scalars : ∀ item ∈ items, ∃ scalar, Scalar.ofValue item = .ok scalar) :
    ∃ numbers, Denotes source numbers := by
  have read : ∃ numbers, List.Forall₂ (fun item number => item.natural = .ok number ∧ number < scalarModulus)
      items numbers := by
    -- Each item has the number of its scalar.
    clear given few
    induction items with
    | nil => exact ⟨[], .nil⟩
    | cons item rest ih =>
      obtain ⟨scalar, accepted⟩ := scalars item (by simp)
      obtain ⟨numbers, tail⟩ := ih fun other member => scalars other (by simp [member])
      exact ⟨scalar.value :: numbers, .cons ⟨Scalar.ofValue_eq_ok_iff.mp accepted, scalar.inRange⟩ tail⟩
  obtain ⟨numbers, read⟩ := read
  exact ⟨numbers, .signals given read few⟩

/-- Field words of one width lie behind the count. -/
@[simp] theorem length_wire (numbers : List Nat) :
    (wire numbers).length = Word.countSize + Word.fieldSize * numbers.length := by
  -- Every number adds one word.
  have body : (numbers.flatMap fieldWord).length = Word.fieldSize * numbers.length := by
    induction numbers with
    | nil => rfl
    | cons number rest ih =>
      rw [List.flatMap_cons, List.length_append, Word.length_bytes, ih, List.length_cons, Nat.mul_succ]
      omega
  rw [wire, List.length_append, Word.length_bytes, body]

/-- The count in front of few enough numbers is how many they are. -/
theorem value_take_wire {numbers : List Nat} (few : numbers.length < Word.countBound) :
    Word.value ((wire numbers).take Word.countSize) = numbers.length := by
  -- The count takes the first four bytes, and they are the word of it.
  have front : (wire numbers).take Word.countSize = Word.bytes Word.countSize numbers.length := by
    rw [wire, List.take_append_of_le_length (by simp), List.take_of_length_le (by simp)]
  rw [front, Word.value_bytes _ _ few]

end PublicInputs

namespace Decode

/-- Bytes whose count is the number of the words behind it. -/
def CountFits (content : Bytes) : Prop :=
  4 ≤ content.length ∧ content.length = 4 + 32 * Word.value (content.take 4)

/-- The numbers behind the count. -/
def publicWords (content : Bytes) : List Nat :=
  (List.range (Word.value (content.take Word.countSize))).map fun index =>
    wordAt content (Word.countSize + index * Word.fieldSize)

/-- Public inputs are decoded when their count fits. -/
theorem publicInputs_of_fits {given : Value} {content : Bytes} (read : bytes given = .ok content)
    (fits : CountFits content) : Decode.publicInputs given = .ok (publicWords content) := by
  -- The count is whole, and the words behind it are as many as it says.
  have long : ¬ content.length < Word.countSize := Nat.not_lt.mpr fits.1
  have sized : content.length =
      Word.countSize + Word.fieldSize * Word.value (content.take Word.countSize) := fits.2
  simp only [Decode.publicInputs, read, Bind.bind, Except.bind, if_neg long, if_pos sized]
  rfl

/-- Other bytes are refused for their length. -/
theorem publicInputs_of_not_fits {content : Bytes} (unfit : ¬ CountFits content) :
    ∃ fault, Decode.publicInputs (.bytes content) = .error (.classified fault) ∧
      fault.kind = .invalidLength ∧ fault.context = [("value", .int content.length)] := by
  -- Either the count itself is cut off, or the words behind it are not as many as it says.
  by_cases short : content.length < Word.countSize
  · have raised := Cause.raise_eq_classified (.publicTooShort content.length) rfl
    simp only [Decode.publicInputs, bytes, Bind.bind, Except.bind, if_pos short, raised]
    exact ⟨_, rfl, rfl, rfl⟩
  · have other : content.length ≠
        Word.countSize + Word.fieldSize * Word.value (content.take Word.countSize) :=
      fun sized => unfit ⟨Nat.not_lt.mp short, sized⟩
    have raised := Cause.raise_eq_classified (.publicLength (Word.value (content.take Word.countSize))
      (Word.countSize + Word.fieldSize * Word.value (content.take Word.countSize)) content.length) rfl
    simp only [Decode.publicInputs, bytes, Bind.bind, Except.bind, if_neg short, if_neg other, raised]
    exact ⟨_, rfl, rfl, rfl⟩

/-- There are as many numbers as the count says. -/
theorem length_publicWords (content : Bytes) :
    (publicWords content).length = Word.value (content.take 4) := by
  simp [publicWords, Word.countSize]

/-- A count has no more than its four bytes. -/
theorem length_publicWords_lt {content : Bytes} (fits : CountFits content) :
    (publicWords content).length < Word.countBound := by
  -- The count is a number of four bytes.
  have declared := Word.value_lt (content.take 4)
  rw [List.length_take, Nat.min_eq_left fits.1] at declared
  rwa [length_publicWords]

/-- The numbers behind the count fit field words. -/
theorem publicWords_lt (content : Bytes) : ∀ number ∈ publicWords content, number < Word.fieldBound := by
  -- Each of them is read from one word.
  intro number member
  obtain ⟨index, _, rfl⟩ := List.mem_map.mp member
  exact wordAt_lt _ _

/-- Bytes whose count fits are the wire form of their numbers. -/
theorem wire_publicWords {content : Bytes} (fits : CountFits content) :
    PublicInputs.wire (publicWords content) = content := by
  -- The first four bytes are the word of the count, and the slices behind them make up the rest.
  have front : (content.take 4).length = 4 := by
    rw [List.length_take, Nat.min_eq_left fits.1]
  have count := Word.bytes_value (content.take 4)
  rw [front] at count
  have body : (publicWords content).flatMap fieldWord = content.drop 4 :=
    flatMap_wordAt (by rw [Nat.mul_comm]; exact fits.2)
  rw [PublicInputs.wire, length_publicWords, body, Word.countSize, count, List.take_append_drop]

/-- The count of a wire form fits. -/
theorem countFits_wire {numbers : List Nat} (few : numbers.length < Word.countBound) :
    CountFits (PublicInputs.wire numbers) := by
  -- The count reads back, and it is what the length was made of.
  have counted : Word.value ((PublicInputs.wire numbers).take 4) = numbers.length :=
    PublicInputs.value_take_wire few
  rw [CountFits, PublicInputs.length_wire, counted]
  exact ⟨Nat.le_add_right _ _, rfl⟩

/-- The numbers in a wire form are those that it was made of. -/
theorem publicWords_wire {numbers : List Nat} (few : numbers.length < Word.countBound)
    (fits : ∀ number ∈ numbers, number < Word.fieldBound) :
    publicWords (PublicInputs.wire numbers) = numbers := by
  rw [publicWords, PublicInputs.value_take_wire few]
  -- Each number stands in its own slice behind the count.
  apply List.ext_getElem
  · simp
  · intro place _ inside
    rw [List.getElem_map, List.getElem_range]
    have slice := wordAt_flatMap (Word.bytes Word.countSize numbers.length) fits inside
    rwa [Word.length_bytes] at slice

end Decode

/-- The text of public inputs is that of their bytes. -/
theorem Encode.result_publicInputs (source : Value) :
    (Encode.publicInputs source).result = Encode.hexText <$> (Encode.publicBytes source).result := by
  -- Both read the inputs first, and the report in between never fails.
  simp only [Encode.publicInputs, Encode.publicBytes, Traced.result_bind, Traced.result_lift, Traced.result_report,
    Traced.result_pure]
  cases PublicInputs.ofValue source <;> rfl

/-- The failure of a public input that lies beyond the modulus, with its number, the modulus and its place. -/
def Fault.signalOutOfRange (number index : Nat) : Fault :=
  ⟨.fieldElementOutOfRange, s!"field element {number} >= modulus {scalarModulus}",
    [("value", .int number), ("modulus", .int scalarModulus), ("label", .text "public"), ("index", .int index)]⟩

/-- A written number that is no scalar is refused as one. -/
theorem Scalar.ofValue_decimal_tooLarge {number : Nat} (bounded : number < Text.decimalBound)
    (large : scalarModulus ≤ number) (index : Nat) :
    located [("label", .text "public"), ("index", .int index)] (Scalar.ofValue (Decode.decimal number)) =
      .error (.classified (Fault.signalOutOfRange number index)) := by
  -- The number can be written, so the failure is a classified one, which takes up its place.
  have worded : (Cause.scalarOutOfRange number).message? =
      some s!"field element {number} >= modulus {scalarModulus}" := by
    simp only [Cause.message?, Text.decimal?_natCast bounded]
    rfl
  simp only [Scalar.ofValue, Decode.natural_decimal bounded, Bind.bind, Except.bind, Nat.not_lt.mpr large,
    dite_false, located, Cause.raise_eq_classified _ worded]
  rfl

/-- A written number that is a scalar is read as one. -/
theorem Scalar.ofValue_decimal {number : Nat} (bounded : number < Text.decimalBound)
    (small : number < scalarModulus) : Scalar.ofValue (Decode.decimal number) = .ok ⟨number, small⟩ :=
  Scalar.ofValue_eq_ok_iff.mpr (Decode.natural_decimal bounded)

/-- The first written number that is no scalar ends the reading of signals. -/
theorem PublicInputs.readSignals_tooLarge {numbers : List Nat} {place : Nat} (inside : place < numbers.length)
    (bounded : ∀ number ∈ numbers, number < Text.decimalBound) (large : scalarModulus ≤ numbers[place])
    (first : ∀ earlier (before : earlier < place), numbers[earlier] < scalarModulus) (index : Nat) :
    readSignals index (numbers.map Decode.decimal) =
      .error (.classified (Fault.signalOutOfRange numbers[place] (index + place))) := by
  -- Every number that is passed moves the place one step closer and the index one step on.
  induction numbers generalizing place index with
  | nil => simp at inside
  | cons number rest ih =>
    rw [List.forall_mem_cons] at bounded
    obtain ⟨headBounded, restBounded⟩ := bounded
    rw [List.map_cons, readSignals]
    cases place with
    | zero =>
      -- The first number is the one that is refused.
      rw [Scalar.ofValue_decimal_tooLarge headBounded large]
      rfl
    | succ place =>
      -- The first number is a scalar, and the reading goes on behind it.
      have small : number < scalarModulus := first 0 (Nat.succ_pos place)
      have later := ih (by simpa using inside) restBounded large
        (fun earlier before => first (earlier + 1) (Nat.succ_lt_succ before)) (index + 1)
      have onward : index + 1 + place = index + (place + 1) := by omega
      rw [Scalar.ofValue_decimal headBounded small]
      simp only [located, Bind.bind, Except.bind, later, onward, List.getElem_cons_succ]

/-- Decoded numbers are encoded when all of them are scalars; otherwise the first that is none is named. -/
theorem Encode.result_publicBytes_publicDocument {numbers : List Nat} (few : numbers.length < Word.countBound)
    (bounded : ∀ number ∈ numbers, number < Text.decimalBound) :
    (Encode.publicBytes (Decode.publicDocument numbers)).result =
      match numbers.findIdx? fun number => scalarModulus ≤ number with
      | none => .ok (PublicInputs.wire numbers)
      | some index => .error (.classified (Fault.signalOutOfRange (numbers.getD index 0) index)) := by
  cases found : numbers.findIdx? fun number => scalarModulus ≤ number with
  | none =>
    -- The document is a list of numerals, and each of them denotes its number.
    have small : ∀ number ∈ numbers, number < scalarModulus := by
      simpa only [List.findIdx?_eq_none_iff, decide_eq_false_iff_not, Nat.not_le] using found
    have read : List.Forall₂ (fun item number => item.natural = .ok number ∧ number < scalarModulus)
        (numbers.map Decode.decimal) numbers := by
      rw [List.forall₂_map_left_iff, List.forall₂_same]
      exact fun number member => ⟨Decode.natural_decimal (bounded number member), small number member⟩
    exact Encode.publicBytes_eq_ok_iff.mpr ⟨numbers, .signals rfl read (by rwa [List.length_map]), rfl⟩
  | some index =>
    obtain ⟨inside, large, first⟩ := List.findIdx?_eq_some_iff_getElem.mp found
    simp only [decide_eq_true_eq, Nat.not_le] at large first
    have refused := PublicInputs.readSignals_tooLarge inside bounded large first 0
    have number : numbers.getD index 0 = numbers[index] := by simp [inside]
    rw [Nat.zero_add] at refused
    rw [Encode.publicBytes, Traced.result_bind, Traced.result_lift]
    simp only [PublicInputs.ofValue, Decode.publicDocument, Value.array, Value.items?, refused, Bind.bind,
      Except.bind, number]

/--
Decoding public inputs and encoding them undo each other.

Scalars, as many as the count can tell, are encoded behind their count and decoded, from the bytes and from every
spelling of them, into their canonical numerals. Bytes are decoded exactly when the count in front fits their
length, and the numbers are encoded again into the same bytes unless one of them is no scalar, the first of which
is then named. No encoding has a count other than the number of its items.
-/
theorem public_decoding_inverts_encoding :
    (∀ source items, source.items? = some items → items.length < 2 ^ 32 →
      (∀ item ∈ items, ∃ scalar, Scalar.ofValue item = .ok scalar) →
      ∃ (numbers : List Nat) (content : Bytes), items.map Value.natural = numbers.map .ok ∧
        (∀ number ∈ numbers, ∃ text, Decode.decimal number = .text text ∧ Text.IsCanonical text number) ∧
        (Encode.publicBytes source).result = .ok content ∧ content.length = 4 + 32 * items.length ∧
        (Encode.publicInputs source).result = .ok (Encode.hexText content) ∧
        Decode.Carries content (.text (Encode.hexText content)) ∧
        ∀ given, Decode.Carries content given →
          Decode.publicDocument <$> Decode.publicInputs given = .ok (.list (numbers.map Decode.decimal))) ∧
    (∀ content : Bytes,
      if 4 ≤ content.length ∧ content.length = 4 + 32 * Word.value (content.take 4) then
        ∃ numbers, Decode.publicInputs (.bytes content) = .ok numbers ∧
          numbers.length = Word.value (content.take 4) ∧
          (∀ index (inside : index < numbers.length),
            numbers[index] = Word.value ((content.drop (4 + index * 32)).take 32)) ∧
          (Encode.publicBytes (Decode.publicDocument numbers)).result =
            match numbers.findIdx? fun number => scalarModulus ≤ number with
            | none => .ok content
            | some index => .error (.classified (Fault.signalOutOfRange (numbers.getD index 0) index))
      else ∃ fault, Decode.publicInputs (.bytes content) = .error (.classified fault) ∧
        fault.kind = .invalidLength ∧ fault.context = [("value", .int content.length)]) ∧
    ∀ source content, (Encode.publicBytes source).result = .ok content →
      ∃ items, source.items? = some items ∧ Word.value (content.take 4) = items.length ∧
        content.length = 4 + 32 * items.length := by
  refine ⟨?_, ?_, ?_⟩
  · -- Scalars have numbers that fit their words, so these are read back behind the count.
    intro source items given few scalars
    obtain ⟨numbers, denoted⟩ := PublicInputs.exists_denotes given few scalars
    -- The items that the numbers come from are the given ones.
    obtain ⟨others, same, lengths, natural⟩ := denoted.natural_items
    obtain rfl : items = others := Option.some.inj (given.symm.trans same)
    obtain ⟨count, inRange⟩ := denoted.inRange
    have fits : ∀ number ∈ numbers, number < Word.fieldBound := fun number member =>
      Nat.lt_trans (inRange number member) Word.scalarModulus_lt_fieldBound
    have encoded : (Encode.publicBytes source).result = .ok (PublicInputs.wire numbers) :=
      Encode.publicBytes_eq_ok_iff.mpr ⟨numbers, denoted, rfl⟩
    refine ⟨numbers, _, natural, fun number _ => ⟨_, rfl, Text.isCanonical_toString number⟩, encoded, ?_, ?_,
      .text (Text.spells_hexText _), ?_⟩
    · rw [PublicInputs.length_wire, lengths]
      rfl
    · rw [Encode.result_publicInputs, encoded]
      rfl
    · intro given carried
      rw [Decode.publicInputs_of_fits (Decode.bytes_of_carries carried) (Decode.countFits_wire count),
        Decode.publicWords_wire count fits]
      rfl
  · -- The count in front decides whether there is anything to read.
    intro content
    split
    next fits =>
      have bounded : ∀ number ∈ Decode.publicWords content, number < Text.decimalBound := fun number member =>
        Nat.lt_of_lt_of_le (Decode.publicWords_lt content number member) Text.fieldBound_le_decimalBound
      refine ⟨_, Decode.publicInputs_of_fits rfl fits, Decode.length_publicWords content, ?_, ?_⟩
      · intro index inside
        exact (List.getElem_map _).trans (by rw [List.getElem_range]; rfl)
      · rw [Encode.result_publicBytes_publicDocument (Decode.length_publicWords_lt fits) bounded,
          Decode.wire_publicWords fits]
    next unfit => exact Decode.publicInputs_of_not_fits unfit
  · -- A count that is written lies below the bound.
    intro source content encoded
    obtain ⟨numbers, denoted, written⟩ := Encode.publicBytes_eq_ok_iff.mp encoded
    obtain ⟨items, given, lengths, _⟩ := denoted.natural_items
    refine ⟨items, given, ?_, ?_⟩
    · rw [written, lengths]
      exact PublicInputs.value_take_wire denoted.inRange.1
    · rw [written, PublicInputs.length_wire, lengths]
      rfl

/-- Two signals, one of them in hexadecimal. -/
def mixedSignals : List Value :=
  [.text "0x2A", .int 7]

/-- Bytes that declare two words, the second of which is too large. -/
def oversizedSignals : Bytes :=
  [0, 0, 0, 2] ++ List.replicate 32 0 ++ List.replicate 32 255

/-- The mixed spellings come back as numerals with their count, and the word that is too large is named. -/
theorem public_decoding_inverts_encoding_mixed_and_oversized :
    (∃ (numbers : List Nat) (content : Bytes), mixedSignals.map Value.natural = numbers.map .ok ∧
      (Encode.publicBytes (.tuple mixedSignals)).result = .ok content ∧ Word.value (content.take 4) = 2 ∧
      Decode.publicDocument <$> Decode.publicInputs (.bytes content) =
        .ok (.list (numbers.map Decode.decimal))) ∧
    ∃ numbers, Decode.publicInputs (.bytes oversizedSignals) = .ok numbers ∧
      (Encode.publicBytes (Decode.publicDocument numbers)).result =
        .error (.classified (Fault.signalOutOfRange (Word.fieldBound - 1) 1)) := by
  constructor
  · have scalars : ∀ item ∈ mixedSignals, ∃ scalar, Scalar.ofValue item = .ok scalar := by
      simp only [mixedSignals, List.forall_mem_cons, List.not_mem_nil, false_implies, implies_true, and_true]
      exact ⟨⟨⟨42, by decide⟩, rfl⟩, ⟨⟨7, by decide⟩, rfl⟩⟩
    obtain ⟨numbers, content, natural, _, encoded, _, _, _, decoded⟩ :=
      public_decoding_inverts_encoding.1 (.tuple mixedSignals) mixedSignals rfl (by decide) scalars
    -- The count of the encoding is that of the items.
    obtain ⟨items, given, count, _⟩ := public_decoding_inverts_encoding.2.2 _ content encoded
    obtain rfl : mixedSignals = items := Option.some.inj given
    exact ⟨numbers, content, natural, encoded, count, decoded _ .bytes⟩
  · have fits : 4 ≤ oversizedSignals.length ∧
        oversizedSignals.length = 4 + 32 * Word.value (oversizedSignals.take 4) := by decide
    have whole := public_decoding_inverts_encoding.2.1 oversizedSignals
    rw [if_pos fits] at whole
    obtain ⟨numbers, decoded, _, _, refused⟩ := whole
    -- The decoded numbers are computed from the bytes.
    have words : numbers = [0, Word.fieldBound - 1] := by
      have same := decoded.symm.trans (Decode.publicInputs_of_fits rfl fits)
      rw [Except.ok.inj same]
      decide
    refine ⟨numbers, decoded, ?_⟩
    rw [refused, words]
    rfl

end ProofWire
