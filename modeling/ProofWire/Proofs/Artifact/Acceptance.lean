import ProofWire.Artifact.Encode
import ProofWire.Proofs.Artifact.Point

/-! Which untyped values the encoders accept, and the bytes that they write for them. -/

namespace ProofWire

/-- A value is an object that holds another one under a key. -/
def Value.Holds (source : Value) (key : String) (value : Value) : Prop :=
  ∃ entries, source = .object entries ∧ entries.lookup key = some value

/-- An entry is found exactly when the object holds it. -/
theorem Value.entry_eq_ok_iff {source value : Value} {key : String} :
    source.entry key = .ok value ↔ source.Holds key value := by
  -- Only an object has entries, and the lookup decides the rest.
  cases source with
  | object entries => cases found : entries.lookup key <;> simp [entry, Holds, found]
  | _ => simp [entry, Holds]

/-- Items are found exactly in a list or a tuple. -/
theorem Value.array_eq_ok_iff {source : Value} {role : String} {items : List Value} :
    source.array role = .ok items ↔ source.items? = some items := by
  cases found : source.items? <;> simp [array, found]

/-- An object holds a G1 point of these numbers under a key. -/
def G1.DenotesAt (source : Value) (key : String) (words : G1Words) : Prop :=
  ∃ point, source.Holds key point ∧ G1.Denotes point words

/-- An object holds a G2 point of these numbers under a key. -/
def G2.DenotesAt (source : Value) (key : String) (words : G2Words) : Prop :=
  ∃ point, source.Holds key point ∧ G2.Denotes point words

/-- Reading an entry finds it and reads the point that it is. -/
theorem G1.result_readEntry (source : Value) (key : String) :
    (G1.readEntry source key).result = source.entry key >>= G1.ofValue (some key) := by
  simp only [G1.readEntry, Traced.result_bind, Traced.result_lift, G1.result_read]

/-- Reading an entry finds it and reads the point that it is. -/
theorem G2.result_readEntry (source : Value) (key : String) :
    (G2.readEntry source key).result = source.entry key >>= G2.ofValue (some key) := by
  simp only [G2.readEntry, Traced.result_bind, Traced.result_lift, G2.result_read]

/-- A G1 point is read from under a key exactly when the object holds one there. -/
theorem G1.exists_readEntry_iff {source : Value} {key : String} {words : G1Words} :
    (∃ point, (G1.readEntry source key).result = .ok point ∧ point.words = words) ↔
      G1.DenotesAt source key words := by
  -- The label of the point does not matter for what it stands for.
  simp only [G1.result_readEntry, bind_eq_ok_iff, Value.entry_eq_ok_iff]
  constructor
  · rintro ⟨point, ⟨value, held, read⟩, rfl⟩
    exact ⟨value, held, G1.denotes_of_ofValue read⟩
  · rintro ⟨value, held, denoted⟩
    obtain ⟨point, read, same⟩ := G1.ofValue_of_denotes denoted (some key)
    exact ⟨point, ⟨value, held, read⟩, same⟩

/-- A G2 point is read from under a key exactly when the object holds one there. -/
theorem G2.exists_readEntry_iff {source : Value} {key : String} {words : G2Words} :
    (∃ point, (G2.readEntry source key).result = .ok point ∧ point.words = words) ↔
      G2.DenotesAt source key words := by
  -- The label of the point does not matter for what it stands for.
  simp only [G2.result_readEntry, bind_eq_ok_iff, Value.entry_eq_ok_iff]
  constructor
  · rintro ⟨point, ⟨value, held, read⟩, rfl⟩
    exact ⟨value, held, G2.denotes_of_ofValue read⟩
  · rintro ⟨value, held, denoted⟩
    obtain ⟨point, read, same⟩ := G2.ofValue_of_denotes denoted (some key)
    exact ⟨point, ⟨value, held, read⟩, same⟩

/-- The numbers that a value stands for as a proof: an object that holds the three points. -/
structure Proof.Denotes (source : Value) (words : ProofWords) : Prop where
  a : G1.DenotesAt source "pi_a" words.a
  b : G2.DenotesAt source "pi_b" words.b
  c : G1.DenotesAt source "pi_c" words.c

/-- A proof is read exactly from a value that stands for one. -/
theorem Proof.exists_read_iff {source : Value} {words : ProofWords} :
    (∃ proof, (Proof.read source).result = .ok proof ∧ proof.words = words) ↔
      Proof.Denotes source words := by
  -- The three entries are read one after the other, and none depends on another.
  simp only [Proof.read, Traced.result_bind, Traced.result_pure, bind_eq_ok_iff, Except.ok.injEq]
  constructor
  · rintro ⟨_, ⟨a, aRead, b, bRead, c, cRead, rfl⟩, rfl⟩
    exact ⟨G1.exists_readEntry_iff.mp ⟨a, aRead, rfl⟩, G2.exists_readEntry_iff.mp ⟨b, bRead, rfl⟩,
      G1.exists_readEntry_iff.mp ⟨c, cRead, rfl⟩⟩
  · rintro ⟨aHeld, bHeld, cHeld⟩
    obtain ⟨a, aRead, aSame⟩ := G1.exists_readEntry_iff.mpr aHeld
    obtain ⟨b, bRead, bSame⟩ := G2.exists_readEntry_iff.mpr bHeld
    obtain ⟨c, cRead, cSame⟩ := G1.exists_readEntry_iff.mpr cHeld
    exact ⟨⟨a, b, c⟩, ⟨a, aRead, b, bRead, c, cRead, rfl⟩, by simp [Proof.words, aSame, bSame, cSame]⟩

/-- A value stands for one proof at most. -/
theorem Proof.Denotes.unique {source : Value} {left right : ProofWords} (first : Proof.Denotes source left)
    (second : Proof.Denotes source right) : left = right := by
  -- There is only one result to read.
  obtain ⟨_, read, rfl⟩ := Proof.exists_read_iff.mpr first
  obtain ⟨_, again, rfl⟩ := Proof.exists_read_iff.mpr second
  rw [Except.ok.inj (read.symm.trans again)]

/-- A proof is encoded exactly when its value stands for one, and then as the words of its numbers. -/
theorem Encode.proofBytes_eq_ok_iff {source : Value} {content : Bytes} :
    (Encode.proofBytes source).result = .ok content ↔
      ∃ words, Proof.Denotes source words ∧ content = words.bytes := by
  -- The bytes show nothing of a proof but its words.
  simp only [Encode.proofBytes, Traced.result_bind, Traced.result_pure, bind_eq_ok_iff, Except.ok.injEq]
  constructor
  · rintro ⟨proof, read, rfl⟩
    exact ⟨proof.words, Proof.exists_read_iff.mp ⟨proof, read, rfl⟩, rfl⟩
  · rintro ⟨words, denoted, written⟩
    obtain ⟨proof, read, same⟩ := Proof.exists_read_iff.mpr denoted
    exact ⟨proof, read, by rw [written, ← same, Proof.bytes]⟩

namespace PublicInputs

/-- The numbers that a value stands for as public inputs: a sequence of scalars, few enough for the count. -/
inductive Denotes (source : Value) (numbers : List Nat) : Prop where
  | signals {items : List Value} (given : source.items? = some items)
    (read : List.Forall₂ (fun item number => item.natural = .ok number ∧ number < scalarModulus)
      items numbers)
    (few : items.length < Word.countBound)

/-- The wire form of public inputs by their numbers. -/
def wire (numbers : List Nat) : Bytes :=
  Word.bytes Word.countSize numbers.length ++ numbers.flatMap fieldWord

/-- The wire form of public inputs shows nothing but their numbers. -/
theorem bytes_eq_wire (inputs : PublicInputs) : inputs.bytes = wire (inputs.signals.map Scalar.value) := by
  simp only [bytes, wire, List.length_map, List.flatMap_map]
  rfl

/-- Signals are read exactly from items that denote their numbers, whatever the first index. -/
theorem readSignals_eq_ok_iff {index : Nat} {items : List Value} {signals : List Scalar} :
    readSignals index items = .ok signals ↔
      List.Forall₂ (fun item (signal : Scalar) => item.natural = .ok signal.value) items signals := by
  -- One item gives one signal, and the rest is read alike.
  induction items generalizing index signals with
  | nil => cases signals <;> simp [readSignals]
  | cons item rest ih =>
    simp only [readSignals, bind_eq_ok_iff, located_eq_ok_iff, Scalar.ofValue_eq_ok_iff, ih]
    constructor
    · rintro ⟨signal, read, tail, tailRead, done⟩
      cases done
      exact .cons read tailRead
    · rintro (_ | ⟨read, tailRead⟩)
      exact ⟨_, read, _, tailRead, rfl⟩

/-- Numbers below the modulus are those of scalars. -/
theorem forall_natural_iff {items : List Value} {numbers : List Nat} :
    List.Forall₂ (fun item number => item.natural = .ok number ∧ number < scalarModulus) items numbers ↔
      ∃ signals : List Scalar, List.Forall₂ (fun item (signal : Scalar) => item.natural = .ok signal.value)
        items signals ∧ signals.map Scalar.value = numbers := by
  constructor
  · -- The range of each number makes it a scalar.
    intro read
    induction read with
    | nil => exact ⟨[], .nil, rfl⟩
    | cons first _ ih =>
      obtain ⟨signals, tail, rfl⟩ := ih
      exact ⟨⟨_, first.2⟩ :: signals, .cons first.1 tail, rfl⟩
  · -- A scalar carries the range of its number.
    rintro ⟨signals, read, rfl⟩
    induction read with
    | nil => exact .nil
    | @cons _ signal _ _ first _ ih => exact .cons ⟨first, signal.inRange⟩ ih

/-- Public inputs are read exactly from a value that stands for them. -/
theorem exists_ofValue_iff {source : Value} {numbers : List Nat} :
    (∃ inputs, PublicInputs.ofValue source = .ok inputs ∧ inputs.signals.map Scalar.value = numbers) ↔
      Denotes source numbers := by
  -- The count is tested on the signals, which are as many as the items.
  simp only [PublicInputs.ofValue, bind_eq_ok_iff, Value.array_eq_ok_iff, readSignals_eq_ok_iff]
  constructor
  · rintro ⟨_, ⟨items, given, signals, read, few, _, done⟩, rfl⟩
    cases done
    exact .signals given (forall_natural_iff.mpr ⟨signals, read, rfl⟩) (read.length_eq ▸ few.down)
  · rintro ⟨given, read, few⟩
    obtain ⟨signals, signalsRead, rfl⟩ := forall_natural_iff.mp read
    have few : signals.length < Word.countBound := signalsRead.length_eq ▸ few
    exact ⟨⟨signals, few⟩, ⟨_, given, signals, signalsRead, ⟨few⟩, by simp [Word.fitCount, few], rfl⟩, rfl⟩

/-- A value stands for one row of public inputs at most. -/
theorem Denotes.unique {source : Value} {left right : List Nat} (first : Denotes source left)
    (second : Denotes source right) : left = right := by
  -- There is only one result to read.
  obtain ⟨_, read, rfl⟩ := exists_ofValue_iff.mpr first
  obtain ⟨_, again, rfl⟩ := exists_ofValue_iff.mpr second
  rw [Except.ok.inj (read.symm.trans again)]

end PublicInputs

/-- Public inputs are encoded exactly when their value stands for some, and then as the count and the words. -/
theorem Encode.publicBytes_eq_ok_iff {source : Value} {content : Bytes} :
    (Encode.publicBytes source).result = .ok content ↔
      ∃ numbers, PublicInputs.Denotes source numbers ∧ content = PublicInputs.wire numbers := by
  -- The bytes show nothing of public inputs but their numbers.
  simp only [Encode.publicBytes, Traced.result_bind, Traced.result_lift, Traced.result_pure,
    bind_eq_ok_iff, Except.ok.injEq]
  constructor
  · rintro ⟨inputs, read, rfl⟩
    exact ⟨_, PublicInputs.exists_ofValue_iff.mp ⟨inputs, read, rfl⟩, inputs.bytes_eq_wire⟩
  · rintro ⟨numbers, denoted, written⟩
    obtain ⟨inputs, read, same⟩ := PublicInputs.exists_ofValue_iff.mpr denoted
    exact ⟨inputs, read, by rw [inputs.bytes_eq_wire, written, same]⟩

/-- The numbers of a verification key on the wire. -/
structure KeyWords where
  alpha : G1Words
  beta : G2Words
  gamma : G2Words
  delta : G2Words
  ic : List G1Words

/-- The wire form of a verification key by its numbers. -/
def KeyWords.bytes (words : KeyWords) : Bytes :=
  words.alpha.bytes ++ words.beta.bytes ++ words.gamma.bytes ++ words.delta.bytes
    ++ Word.bytes Word.countSize words.ic.length ++ words.ic.flatMap G1Words.bytes

namespace VerificationKey

/-- The wire numbers of a verification key. -/
def words (key : VerificationKey) : KeyWords :=
  ⟨key.alpha.words, key.beta.words, key.gamma.words, key.delta.words, key.ic.map G1.words⟩

/-- The wire form of a verification key shows nothing but its numbers. -/
theorem bytes_eq_words (key : VerificationKey) : key.bytes = key.words.bytes := by
  simp only [bytes, KeyWords.bytes, words, List.length_map, List.flatMap_map]
  rfl

/-- An object holds a row of G1 points of these numbers, few enough for the count. -/
inductive DenotesRow (source : Value) (row : List G1Words) : Prop where
  | points {value : Value} {items : List Value} (held : source.Holds "IC" value)
    (given : value.items? = some items) (few : items.length < Word.countBound)
    (read : List.Forall₂ G1.Denotes items row)

/-- The numbers that a value stands for as a verification key: an object that holds the four fixed points and the
row. -/
structure Denotes (source : Value) (words : KeyWords) : Prop where
  alpha : G1.DenotesAt source "vk_alpha_1" words.alpha
  beta : G2.DenotesAt source "vk_beta_2" words.beta
  gamma : G2.DenotesAt source "vk_gamma_2" words.gamma
  delta : G2.DenotesAt source "vk_delta_2" words.delta
  ic : DenotesRow source words.ic

/-- A row of points is read exactly from items that stand for their numbers, whatever the first index. -/
theorem exists_readRow_iff (index : Nat) {items : List Value} {row : List G1Words} :
    (∃ points, (readRow index items).result = .ok points ∧ points.map G1.words = row) ↔
      List.Forall₂ G1.Denotes items row := by
  -- One item gives one point, and the rest is read alike.
  induction items generalizing index row with
  | nil => cases row <;> simp [readRow]
  | cons item rest ih =>
    simp only [readRow, Traced.result_bind, G1.result_read, Traced.result_pure, bind_eq_ok_iff,
      Except.ok.injEq]
    constructor
    · rintro ⟨_, ⟨point, read, tail, tailRead, rfl⟩, rfl⟩
      exact .cons (G1.denotes_of_ofValue read) ((ih (index + 1)).mp ⟨tail, tailRead, rfl⟩)
    · rintro (_ | ⟨denoted, tailDenoted⟩)
      obtain ⟨point, read, rfl⟩ := G1.ofValue_of_denotes denoted (some (icLabel index))
      obtain ⟨tail, tailRead, rfl⟩ := (ih (index + 1)).mpr tailDenoted
      exact ⟨point :: tail, ⟨point, read, tail, tailRead, rfl⟩, rfl⟩

/-- A verification key is read exactly from a value that stands for one. -/
theorem exists_read_iff {source : Value} {words : KeyWords} :
    (∃ key, (read source).result = .ok key ∧ key.words = words) ↔ Denotes source words := by
  -- The points are read one after the other, and the count is tested between the fixed ones and the row.
  simp only [read, Traced.result_bind, Traced.result_lift, bind_eq_ok_iff, Value.entry_eq_ok_iff,
    Value.array_eq_ok_iff]
  constructor
  · rintro ⟨key, ⟨alpha, alphaRead, beta, betaRead, gamma, gammaRead, delta, deltaRead, value, held,
      items, given, few, _, done⟩, rfl⟩
    split at done
    · rename_i ic icRead
      cases done
      exact ⟨G1.exists_readEntry_iff.mp ⟨alpha, alphaRead, rfl⟩,
        G2.exists_readEntry_iff.mp ⟨beta, betaRead, rfl⟩,
        G2.exists_readEntry_iff.mp ⟨gamma, gammaRead, rfl⟩,
        G2.exists_readEntry_iff.mp ⟨delta, deltaRead, rfl⟩,
        .points held given few.down ((exists_readRow_iff 0).mp ⟨ic, icRead, rfl⟩)⟩
    · cases done
  · rintro ⟨alphaHeld, betaHeld, gammaHeld, deltaHeld, ⟨held, given, few, denoted⟩⟩
    obtain ⟨alpha, alphaRead, alphaSame⟩ := G1.exists_readEntry_iff.mpr alphaHeld
    obtain ⟨beta, betaRead, betaSame⟩ := G2.exists_readEntry_iff.mpr betaHeld
    obtain ⟨gamma, gammaRead, gammaSame⟩ := G2.exists_readEntry_iff.mpr gammaHeld
    obtain ⟨delta, deltaRead, deltaSame⟩ := G2.exists_readEntry_iff.mpr deltaHeld
    obtain ⟨ic, icRead, icSame⟩ := (exists_readRow_iff 0).mpr denoted
    have count : ic.length < Word.countBound := length_readRow icRead ▸ few
    refine ⟨⟨alpha, beta, gamma, delta, ic, count⟩, ⟨alpha, alphaRead, beta, betaRead, gamma, gammaRead,
      delta, deltaRead, _, held, _, given, ⟨few⟩, by simp [Word.fitCount, few], ?_⟩,
      by simp [VerificationKey.words, alphaSame, betaSame, gammaSame, deltaSame, icSame]⟩
    split
    · rename_i row rowRead
      have same : row = ic := Except.ok.inj (rowRead.symm.trans icRead)
      subst same
      rfl
    · rename_i failure failed
      cases failed.symm.trans icRead

/-- A value stands for one verification key at most. -/
theorem Denotes.unique {source : Value} {left right : KeyWords} (first : Denotes source left)
    (second : Denotes source right) : left = right := by
  -- There is only one result to read.
  obtain ⟨_, read, rfl⟩ := exists_read_iff.mpr first
  obtain ⟨_, again, rfl⟩ := exists_read_iff.mpr second
  rw [Except.ok.inj (read.symm.trans again)]

end VerificationKey

/-- A verification key is encoded exactly when its value stands for one, and then as the words of its numbers. -/
theorem Encode.keyBytes_eq_ok_iff {source : Value} {content : Bytes} :
    (Encode.keyBytes source).result = .ok content ↔
      ∃ words, VerificationKey.Denotes source words ∧ content = words.bytes := by
  -- The bytes show nothing of a key but its words.
  simp only [Encode.keyBytes, Traced.result_bind, Traced.result_pure, bind_eq_ok_iff, Except.ok.injEq]
  constructor
  · rintro ⟨key, read, rfl⟩
    exact ⟨key.words, VerificationKey.exists_read_iff.mp ⟨key, read, rfl⟩, key.bytes_eq_words⟩
  · rintro ⟨words, denoted, written⟩
    obtain ⟨key, read, same⟩ := VerificationKey.exists_read_iff.mpr denoted
    exact ⟨key, read, by rw [key.bytes_eq_words, written, same]⟩

end ProofWire
