import ProofWire.Comparison.Report
import ProofWire.Proofs.Layout.Artifact

/-! Reports: a comparison of two encodings finds them equal when they encode the same numbers, and otherwise names
the first number that differs. -/

namespace ProofWire

open Component

/-- What a comparison says: whether both sides are the same and, when they are not, the field in which they part. -/
structure Comparison.Tells (comparison : Comparison) (same : Prop) (field : Option String) : Prop where
  sameBytes : comparison.sameBytes = true ↔ same
  firstNibble : comparison.firstNibble = none ↔ same
  noField : comparison.firstField = none ↔ same
  firstField : comparison.firstField = field

/-- The wires of two rows of components are compared by their components. -/
theorem Comparison.tells_ofContents {left right : List Component} (leftFits : ∀ component ∈ left, component.Fits)
    (rightFits : ∀ component ∈ right, component.Fits) (parted : left = right ∨ ∃ name, PartAt name left right)
    (algorithms : List Algorithm) :
    (ofContents (wire left) (wire right) (slots 0 left) algorithms).Tells (left = right)
      (firstApart? left right) := by
  rcases parted with same | ⟨name, parted⟩
  · -- Equal rows have equal digits.
    subst same
    have nibble : firstNibble? (wire left) (wire left) = none := firstDifference_eq_none_iff.mpr rfl
    constructor <;> simp [ofContents, nibble]
  · -- The digits part in the byte in which the wires do, and that byte lies in the slot of the component.
    obtain ⟨place, found, located⟩ := parted.locate leftFits rightFits 0
    rw [Nat.zero_add] at located
    -- Half of the place in the digits is the place in the bytes.
    have halved := firstNibble?_half (wire left) (wire right)
    rw [found] at halved
    obtain ⟨nibble, first, rfl⟩ := Option.map_eq_some_iff.mp halved
    have wires : wire left ≠ wire right := by
      intro same
      rw [firstDifference_eq_none_iff.mpr same] at found
      cases found
    have differ : left ≠ right := fun same => wires (congrArg wire same)
    have field : (ofContents (wire left) (wire right) (slots 0 left) algorithms).firstField = some name := by
      simp only [ofContents, first, Option.bind_some, located]
    constructor
    · simp [ofContents, wires, differ]
    · simp [ofContents, first, differ]
    · simp [field, differ]
    · rw [field, parted.firstApart?]

/-- Two proofs are compared by their components. -/
theorem Comparison.tells_of_proofs {ours reference : Value} {left right : ProofWords}
    (oursDenoted : Proof.Denotes ours left) (referenceDenoted : Proof.Denotes reference right)
    (algorithms : List Algorithm) :
    (ofContents left.bytes right.bytes Layout.proof algorithms).Tells (left = right)
      (firstApart? left.components right.components) := by
  -- The wire of the components is the encoding, and they determine the proof.
  have told := tells_ofContents oursDenoted.components_fit referenceDenoted.components_fit
    (left.components_parted right) algorithms
  rwa [left.wire_components, right.wire_components, left.slots_components,
    ProofWords.components_injective.eq_iff] at told

/-- Two rows of public inputs are compared by their counts and, when these are equal, by their signals. -/
theorem Comparison.tells_of_publicInputs {ours reference : Value} {left right : List Nat}
    (oursDenoted : PublicInputs.Denotes ours left) (referenceDenoted : PublicInputs.Denotes reference right)
    (algorithms : List Algorithm) :
    (ofContents (PublicInputs.wire left) (PublicInputs.wire right) (Layout.publicInputs left.length)
      algorithms).Tells (left = right)
      (if left.length ≠ right.length then some "count"
      else ((left.zip right).findIdx? fun (first, second) => first ≠ second).map fun place =>
        s!"public[{place}]") := by
  -- The wire of the components is the encoding, and they determine the numbers.
  have told := tells_ofContents oursDenoted.components_fit referenceDenoted.components_fit
    (PublicInputs.components_parted left right) algorithms
  rwa [PublicInputs.wire_components, PublicInputs.wire_components, PublicInputs.slots_components,
    PublicInputs.components_injective.eq_iff, PublicInputs.firstApart?_components] at told

/-- Two verification keys are compared by their fixed points, their counts and their rows. -/
theorem Comparison.tells_of_keys {ours reference : Value} {left right : KeyWords}
    (oursDenoted : VerificationKey.Denotes ours left) (referenceDenoted : VerificationKey.Denotes reference right)
    (algorithms : List Algorithm) :
    (ofContents left.bytes right.bytes (Layout.key left.ic.length) algorithms).Tells (left = right)
      ((firstApart? left.fixedComponents right.fixedComponents).or
        (if left.ic.length ≠ right.ic.length then some "IC.count"
        else firstApart? (KeyWords.rowComponents 0 left.ic) (KeyWords.rowComponents 0 right.ic))) := by
  -- The wire of the components is the encoding, and they determine the key.
  have told := tells_ofContents oursDenoted.components_fit referenceDenoted.components_fit
    (left.components_parted right) algorithms
  rwa [left.wire_components, right.wire_components, left.slots_components,
    KeyWords.components_injective.eq_iff, KeyWords.firstApart?_components] at told

/-- A comparison of equal contents says that both sides are the same. -/
theorem Comparison.Tells.same {content : Bytes} {layout : List Slot} {algorithms : List Algorithm} {same : Prop}
    {field : Option String} (told : (ofContents content content layout algorithms).Tells same field) : same :=
  told.sameBytes.mp (beq_self_eq_true content)

/-- Values of one encoding stand for the same proof. -/
theorem Encode.same_proof {first second : Value} {content : Bytes}
    (encoded : (Encode.proofBytes first).result = .ok content)
    (again : (Encode.proofBytes second).result = .ok content) :
    ∃ words, Proof.Denotes first words ∧ Proof.Denotes second words := by
  -- The report on an encoding and itself tells that the words are equal.
  obtain ⟨left, leftDenoted, written⟩ := Encode.proofBytes_eq_ok_iff.mp encoded
  obtain ⟨right, rightDenoted, rewritten⟩ := Encode.proofBytes_eq_ok_iff.mp again
  have told := Comparison.tells_of_proofs leftDenoted rightDenoted []
  rw [← written, ← rewritten] at told
  exact ⟨left, leftDenoted, told.same ▸ rightDenoted⟩

/-- Values of one encoding stand for the same public inputs. -/
theorem Encode.same_publicInputs {first second : Value} {content : Bytes}
    (encoded : (Encode.publicBytes first).result = .ok content)
    (again : (Encode.publicBytes second).result = .ok content) :
    ∃ numbers, PublicInputs.Denotes first numbers ∧ PublicInputs.Denotes second numbers := by
  -- The report on an encoding and itself tells that the numbers are equal.
  obtain ⟨left, leftDenoted, written⟩ := Encode.publicBytes_eq_ok_iff.mp encoded
  obtain ⟨right, rightDenoted, rewritten⟩ := Encode.publicBytes_eq_ok_iff.mp again
  have told := Comparison.tells_of_publicInputs leftDenoted rightDenoted []
  rw [← written, ← rewritten] at told
  exact ⟨left, leftDenoted, told.same ▸ rightDenoted⟩

/-- Values of one encoding stand for the same verification key. -/
theorem Encode.same_key {first second : Value} {content : Bytes}
    (encoded : (Encode.keyBytes first).result = .ok content)
    (again : (Encode.keyBytes second).result = .ok content) :
    ∃ words, VerificationKey.Denotes first words ∧ VerificationKey.Denotes second words := by
  -- The report on an encoding and itself tells that the words are equal.
  obtain ⟨left, leftDenoted, written⟩ := Encode.keyBytes_eq_ok_iff.mp encoded
  obtain ⟨right, rightDenoted, rewritten⟩ := Encode.keyBytes_eq_ok_iff.mp again
  have told := Comparison.tells_of_keys leftDenoted rightDenoted []
  rw [← written, ← rewritten] at told
  exact ⟨left, leftDenoted, told.same ▸ rightDenoted⟩

/-- A comparison is made exactly when every value names an algorithm. -/
theorem Comparison.ofNames_eq_ok_iff {ours reference : Bytes} {layout : List Slot} {names : List Value}
    {comparison : Comparison} :
    ofNames ours reference layout names = .ok comparison ↔
      ∃ algorithms, names.mapM Algorithm.ofValue = .ok algorithms ∧
        ofContents ours reference layout algorithms = comparison := by
  simp only [ofNames, bind_eq_ok_iff, pure, Except.pure, Except.ok.injEq]

/-- A comparison of any contents is made when the algorithms are known. -/
theorem Comparison.ofNames_of_resolved {names : List Value} {algorithms : List Algorithm}
    (resolved : names.mapM Algorithm.ofValue = .ok algorithms) (ours reference : Bytes) (layout : List Slot) :
    ofNames ours reference layout names = .ok (ofContents ours reference layout algorithms) :=
  ofNames_eq_ok_iff.mpr ⟨algorithms, resolved, rfl⟩

namespace Report

/-- A key is compared when both of its sides are given. -/
theorem result_buildKey_of_given {subjects : Subjects} {names : List Value} {reference : Bytes}
    (given : subjects.key ≠ .null) (compared : subjects.referenceKey = some reference) :
    (buildKey subjects names).result = do
      let key ← (VerificationKey.read subjects.key).result
      let comparison ← Comparison.ofNames key.bytes reference (Layout.key key.ic.length) names
      return some comparison := by
  -- The first two cases are those in which a side is missing.
  unfold buildKey
  split
  next null => exact absurd null given
  next missing _ => cases compared.symm.trans missing
  next other found _ =>
    cases compared.symm.trans found
    simp only [Traced.result_bind, Traced.result_lift, Traced.result_pure]
    rfl

/-- A key is not compared when one of its sides is missing. -/
theorem result_buildKey_of_missing {subjects : Subjects} {names : List Value}
    (missing : subjects.key = .null ∨ subjects.referenceKey = none) :
    (buildKey subjects names).result = .ok none := by
  -- The last case is the one in which both sides are given.
  unfold buildKey
  split
  next => rfl
  next => rfl
  next found present =>
    rcases missing with null | none
    · exact absurd null present
    · cases found.symm.trans none

/-- A report consists of its comparisons, made one after the other. -/
theorem result_build_eq_ok_iff {subjects : Subjects} {algorithms : List Value} {report : Report} :
    (build subjects algorithms).result = .ok report ↔
      (∃ proof, (Proof.read subjects.proof).result = .ok proof ∧
        Comparison.ofNames proof.bytes subjects.referenceProof Layout.proof (algorithmsOr algorithms) =
          .ok report.proof) ∧
      (∃ inputs, PublicInputs.ofValue subjects.publicInputs = .ok inputs ∧
        Comparison.ofNames inputs.bytes subjects.referencePublic (Layout.publicInputs inputs.signals.length)
          (algorithmsOr algorithms) = .ok report.publicInputs) ∧
      (buildKey subjects (algorithmsOr algorithms)).result = .ok report.key := by
  -- No comparison depends on another.
  simp only [build, Traced.result_bind, Traced.result_lift, Traced.result_pure, bind_eq_ok_iff, Except.ok.injEq]
  constructor
  · rintro ⟨proof, read, first, compared, inputs, given, second, publicCompared, key, built, rfl⟩
    exact ⟨⟨proof, read, compared⟩, ⟨inputs, given, publicCompared⟩, built⟩
  · rintro ⟨⟨proof, read, compared⟩, ⟨inputs, given, publicCompared⟩, built⟩
    exact ⟨proof, read, _, compared, inputs, given, _, publicCompared, _, built, rfl⟩

/-- A comparison of keys is made, or none is asked for. -/
theorem exists_buildKey {subjects : Subjects} {names : List Value} {algorithms : List Algorithm}
    (resolved : names.mapM Algorithm.ofValue = .ok algorithms)
    (key : subjects.key = .null ∨ subjects.referenceKey = none ∨
      ∃ content, (Encode.keyBytes subjects.key).result = .ok content) :
    ∃ comparison, (buildKey subjects names).result = .ok comparison := by
  -- Only a key that is compared has to be encoded.
  by_cases missing : subjects.key = .null ∨ subjects.referenceKey = none
  · exact ⟨none, result_buildKey_of_missing missing⟩
  · rw [not_or] at missing
    obtain ⟨reference, found⟩ := Option.ne_none_iff_exists'.mp missing.2
    obtain ⟨_, encoded⟩ := (key.resolve_left missing.1).resolve_left missing.2
    rw [Encode.keyBytes, Traced.result_bind, bind_eq_ok_iff] at encoded
    obtain ⟨key, read, _⟩ := encoded
    have compared := Comparison.ofNames_of_resolved resolved key.bytes reference (Layout.key key.ic.length)
    rw [result_buildKey_of_given missing.1 found, read]
    simp only [Bind.bind, Except.bind, compared]
    exact ⟨_, rfl⟩

/-- Known algorithms, or the default one when none is named, are looked up. -/
theorem exists_algorithms {names : List Value}
    (known : ∀ named ∈ names, ∃ algorithm, Algorithm.ofValue named = .ok algorithm) :
    ∃ algorithms, (algorithmsOr names).mapM Algorithm.ofValue = .ok algorithms := by
  -- No name at all stands for the default algorithm.
  unfold algorithmsOr
  split
  · exact ⟨[.sha256], rfl⟩
  · exact exists_mapM_eq_ok known

/-- A report is made when its artifacts are encoded and its algorithms are known. -/
theorem exists_build {subjects : Subjects} {names : List Value}
    (proof : ∃ content, (Encode.proofBytes subjects.proof).result = .ok content)
    (publicInputs : ∃ content, (Encode.publicBytes subjects.publicInputs).result = .ok content)
    (key : subjects.key = .null ∨ subjects.referenceKey = none ∨
      ∃ content, (Encode.keyBytes subjects.key).result = .ok content)
    (known : ∀ named ∈ names, ∃ algorithm, Algorithm.ofValue named = .ok algorithm) :
    ∃ report, (build subjects names).result = .ok report := by
  -- All comparisons use the same algorithms, the default one when none is named.
  obtain ⟨algorithms, resolved⟩ := exists_algorithms known
  have compared := Comparison.ofNames_of_resolved resolved
  simp only [Encode.proofBytes, Encode.publicBytes, Traced.result_bind, Traced.result_lift,
    Traced.result_pure, bind_eq_ok_iff] at proof publicInputs
  obtain ⟨_, proof, read, _⟩ := proof
  obtain ⟨_, inputs, given, _⟩ := publicInputs
  obtain ⟨keyComparison, built⟩ := exists_buildKey resolved key
  exact ⟨⟨_, _, keyComparison⟩,
    result_build_eq_ok_iff.mpr ⟨⟨proof, read, compared _ _ _⟩, ⟨inputs, given, compared _ _ _⟩, built⟩⟩

end Report

/--
A report names the first number that differs from the reference.

It is made whenever the artifacts are encoded and the algorithms are known. When the reference is an encoding as
well, each comparison finds the same bytes exactly when both sides stand for the same numbers, and otherwise names
the first of them, in the order of the wire, that differs: among the numbers of a proof; the count of public inputs
before their signals; the fixed points of a key before its count and its row. In particular, values of one encoding
stand for the same numbers.
-/
theorem report_names_first_difference (subjects : Report.Subjects) (names : List Value) :
    ((∃ content, (Encode.proofBytes subjects.proof).result = .ok content) →
      (∃ content, (Encode.publicBytes subjects.publicInputs).result = .ok content) →
      (subjects.key = .null ∨ subjects.referenceKey = none ∨
        ∃ content, (Encode.keyBytes subjects.key).result = .ok content) →
      (∀ named ∈ names, ∃ algorithm, Algorithm.ofValue named = .ok algorithm) →
      ∃ report, (Report.build subjects names).result = .ok report) ∧
    (∀ report, (Report.build subjects names).result = .ok report →
      (∀ other, (Encode.proofBytes other).result = .ok subjects.referenceProof →
        ∃ left right, Proof.Denotes subjects.proof left ∧ Proof.Denotes other right ∧
          report.proof.Tells (left = right) (firstApart? left.components right.components)) ∧
      (∀ other, (Encode.publicBytes other).result = .ok subjects.referencePublic →
        ∃ left right, PublicInputs.Denotes subjects.publicInputs left ∧ PublicInputs.Denotes other right ∧
          report.publicInputs.Tells (left = right)
            (if left.length ≠ right.length then some "count"
            else ((left.zip right).findIdx? fun (first, second) => first ≠ second).map fun place =>
              s!"public[{place}]")) ∧
      ∀ other reference, subjects.key ≠ .null → subjects.referenceKey = some reference →
        (Encode.keyBytes other).result = .ok reference →
        ∃ comparison left right, report.key = some comparison ∧
          VerificationKey.Denotes subjects.key left ∧ VerificationKey.Denotes other right ∧
          comparison.Tells (left = right)
            ((firstApart? left.fixedComponents right.fixedComponents).or
              (if left.ic.length ≠ right.ic.length then some "IC.count"
              else firstApart? (KeyWords.rowComponents 0 left.ic) (KeyWords.rowComponents 0 right.ic)))) ∧
    ∀ first second content,
      ((Encode.proofBytes first).result = .ok content → (Encode.proofBytes second).result = .ok content →
        ∃ words, Proof.Denotes first words ∧ Proof.Denotes second words) ∧
      ((Encode.publicBytes first).result = .ok content → (Encode.publicBytes second).result = .ok content →
        ∃ numbers, PublicInputs.Denotes first numbers ∧ PublicInputs.Denotes second numbers) ∧
      ((Encode.keyBytes first).result = .ok content → (Encode.keyBytes second).result = .ok content →
        ∃ words, VerificationKey.Denotes first words ∧ VerificationKey.Denotes second words) := by
  refine ⟨Report.exists_build, fun report built => ?_, fun first second content =>
    ⟨Encode.same_proof, Encode.same_publicInputs, Encode.same_key⟩⟩
  obtain ⟨⟨proof, read, compared⟩, ⟨inputs, given, publicCompared⟩, keyBuilt⟩ :=
    Report.result_build_eq_ok_iff.mp built
  refine ⟨?_, ?_, ?_⟩
  · -- The proof that was read has the bytes that were compared.
    intro other encoded
    obtain ⟨right, rightDenoted, written⟩ := Encode.proofBytes_eq_ok_iff.mp encoded
    have denoted := Proof.exists_read_iff.mp ⟨proof, read, rfl⟩
    obtain ⟨algorithms, _, made⟩ := Comparison.ofNames_eq_ok_iff.mp compared
    refine ⟨proof.words, right, denoted, rightDenoted, ?_⟩
    rw [← made, written]
    exact Comparison.tells_of_proofs denoted rightDenoted algorithms
  · -- The layout has as many slots as there are signals on this side.
    intro other encoded
    obtain ⟨right, rightDenoted, written⟩ := Encode.publicBytes_eq_ok_iff.mp encoded
    have denoted := PublicInputs.exists_ofValue_iff.mp ⟨inputs, given, rfl⟩
    obtain ⟨algorithms, _, made⟩ := Comparison.ofNames_eq_ok_iff.mp publicCompared
    refine ⟨inputs.signals.map Scalar.value, right, denoted, rightDenoted, ?_⟩
    have count : (inputs.signals.length : Int) = (inputs.signals.map Scalar.value).length := by
      rw [List.length_map]
    rw [← made, written, inputs.bytes_eq_wire, count]
    exact Comparison.tells_of_publicInputs denoted rightDenoted algorithms
  · -- The layout has as many rows as there are points on this side.
    intro other reference present found encoded
    obtain ⟨right, rightDenoted, written⟩ := Encode.keyBytes_eq_ok_iff.mp encoded
    rw [Report.result_buildKey_of_given present found] at keyBuilt
    simp only [bind_eq_ok_iff] at keyBuilt
    obtain ⟨key, keyRead, comparison, keyCompared, kept⟩ := keyBuilt
    have denoted := VerificationKey.exists_read_iff.mp ⟨key, keyRead, rfl⟩
    obtain ⟨algorithms, _, made⟩ := Comparison.ofNames_eq_ok_iff.mp keyCompared
    refine ⟨comparison, key.words, right, (Except.ok.inj kept).symm, denoted, rightDenoted, ?_⟩
    have count : (key.ic.length : Int) = key.words.ic.length := by
      rw [VerificationKey.words, List.length_map]
    rw [← made, written, key.bytes_eq_words, count]
    exact Comparison.tells_of_keys denoted rightDenoted algorithms

/-- A key of small numbers with a given row. -/
def keyWithRow (row : List Value) : Value :=
  .object [
    ("vk_alpha_1", .list [.int 1, .int 2, .int 1]),
    ("vk_beta_2", .list [.list [], .list [], .list [.int 0, .int 0]]),
    ("vk_gamma_2", .list [.list [], .list [], .list [.int 0, .int 0]]),
    ("vk_delta_2", .list [.list [], .list [], .list [.int 0, .int 0]]),
    ("IC", .list row)]

/-- The numbers of a key of small numbers. -/
def wordsWithRow (row : List G1Words) : KeyWords :=
  ⟨⟨1, 2⟩, ⟨0, 0, 0, 0⟩, ⟨0, 0, 0, 0⟩, ⟨0, 0, 0, 0⟩, row⟩

/-- A key of small numbers stands for them when its row does. -/
theorem keyWithRow_denotes {items : List Value} {row : List G1Words} (few : items.length < Word.countBound)
    (read : List.Forall₂ G1.Denotes items row) :
    VerificationKey.Denotes (keyWithRow items) (wordsWithRow row) where
  -- The fixed points are the same whatever the row is.
  alpha := ⟨_, ⟨_, rfl, rfl⟩, .affine rfl rfl rfl (by decide) rfl (by decide)⟩
  beta := ⟨_, ⟨_, rfl, rfl⟩, .infinity rfl rfl rfl rfl rfl rfl⟩
  gamma := ⟨_, ⟨_, rfl, rfl⟩, .infinity rfl rfl rfl rfl rfl rfl⟩
  delta := ⟨_, ⟨_, rfl, rfl⟩, .infinity rfl rfl rfl rfl rfl rfl⟩
  ic := .points ⟨_, rfl, rfl⟩ rfl few read

/-- Whole numbers below the modulus stand for themselves as public inputs. -/
theorem publicInputs_denotes_pair (first second : Nat) (firstRange : first < scalarModulus)
    (secondRange : second < scalarModulus) :
    PublicInputs.Denotes (.list [.int first, .int second]) [first, second] :=
  .signals rfl (.cons ⟨rfl, firstRange⟩ (.cons ⟨rfl, secondRange⟩ .nil)) (show 2 < Word.countBound by decide)

/-- A proof in two spellings, inputs that differ in the second signal and keys with rows of one point and none. -/
def differingSubjects : Report.Subjects where
  proof := mixedProof
  publicInputs := .list [.int (1 : Nat), .int (2 : Nat)]
  key := keyWithRow [.list [.int 5, .int 6, .int 1]]
  referenceProof := sharedWords.bytes
  referencePublic := PublicInputs.wire [1, 3]
  referenceKey := some (wordsWithRow []).bytes

/-- The report finds the proofs the same and names the second signal and the count of the row. -/
theorem report_names_first_difference_signal_and_count :
    ∃ report comparison, (Report.build differingSubjects []).result = .ok report ∧
      report.proof.sameBytes = true ∧ report.publicInputs.firstField = some "public[1]" ∧
      report.key = some comparison ∧ comparison.firstField = some "IC.count" := by
  have oursPublic := publicInputs_denotes_pair 1 2 (by decide) (by decide)
  have otherPublic := publicInputs_denotes_pair 1 3 (by decide) (by decide)
  have oursKey : VerificationKey.Denotes differingSubjects.key (wordsWithRow [⟨5, 6⟩]) :=
    keyWithRow_denotes (by decide) (.cons (.affine rfl rfl rfl (by decide) rfl (by decide)) .nil)
  have otherKey : VerificationKey.Denotes (keyWithRow []) (wordsWithRow []) := keyWithRow_denotes (by decide) .nil
  -- All three artifacts are encoded, so there is a report.
  obtain ⟨made, told, _⟩ := report_names_first_difference differingSubjects []
  obtain ⟨report, built⟩ := made
    ⟨_, Encode.proofBytes_eq_ok_iff.mpr ⟨sharedWords, mixedProof_denotes, rfl⟩⟩
    ⟨_, Encode.publicBytes_eq_ok_iff.mpr ⟨[1, 2], oursPublic, rfl⟩⟩
    (.inr (.inr ⟨_, Encode.keyBytes_eq_ok_iff.mpr ⟨_, oursKey, rfl⟩⟩)) (List.forall_mem_nil _)
  obtain ⟨proof, publicInputs, key⟩ := told report built
  -- The numbers that the report speaks of are the known ones, for no value stands for others.
  obtain ⟨left, right, leftDenoted, rightDenoted, proofTold⟩ :=
    proof plainProof (Encode.proofBytes_eq_ok_iff.mpr ⟨sharedWords, plainProof_denotes, rfl⟩)
  obtain rfl := leftDenoted.unique mixedProof_denotes
  obtain rfl := rightDenoted.unique plainProof_denotes
  obtain ⟨left, right, leftDenoted, rightDenoted, publicTold⟩ :=
    publicInputs _ (Encode.publicBytes_eq_ok_iff.mpr ⟨[1, 3], otherPublic, rfl⟩)
  obtain rfl := leftDenoted.unique oursPublic
  obtain rfl := rightDenoted.unique otherPublic
  obtain ⟨comparison, left, right, compared, leftDenoted, rightDenoted, keyTold⟩ :=
    key (keyWithRow []) _ nofun rfl (Encode.keyBytes_eq_ok_iff.mpr ⟨_, otherKey, rfl⟩)
  obtain rfl := leftDenoted.unique oursKey
  obtain rfl := rightDenoted.unique otherKey
  exact ⟨report, comparison, built, proofTold.sameBytes.mpr rfl, publicTold.firstField, compared,
    keyTold.firstField⟩

end ProofWire
