import ProofWire.Proofs.Comparison.Report

/-! Matches: a report says that all artifacts match exactly when each of them is encoded as its reference. -/

namespace ProofWire

/-- A comparison finds the same bytes exactly when there are the same bytes. -/
theorem Comparison.sameBytes_iff {ours reference : Bytes} {layout : List Slot} {names : List Value}
    {comparison : Comparison} (made : ofNames ours reference layout names = .ok comparison) :
    comparison.sameBytes = true ↔ ours = reference := by
  obtain ⟨algorithms, _, rfl⟩ := ofNames_eq_ok_iff.mp made
  exact beq_iff_eq

namespace Report

/--
Artifacts equal their references.

Each is encoded as the bytes of its reference; the verification key is left out where its value is null or its
reference is missing.
-/
structure Subjects.Equal (subjects : Subjects) : Prop where
  proof : (Encode.proofBytes subjects.proof).result = .ok subjects.referenceProof
  publicInputs : (Encode.publicBytes subjects.publicInputs).result = .ok subjects.referencePublic
  key : (subjects.key = .null ∨ subjects.referenceKey = none) ∨
    ∃ reference, subjects.referenceKey = some reference ∧
      (Encode.keyBytes subjects.key).result = .ok reference

/-- A proof that is read is encoded as its bytes. -/
theorem proofBytes_of_read {source : Value} {proof : Proof} (read : (Proof.read source).result = .ok proof) :
    (Encode.proofBytes source).result = .ok proof.bytes := by
  rw [Encode.proofBytes, Traced.result_bind, read]
  rfl

/-- Public inputs that are read are encoded as their bytes. -/
theorem publicBytes_of_read {source : Value} {inputs : PublicInputs}
    (read : PublicInputs.ofValue source = .ok inputs) :
    (Encode.publicBytes source).result = .ok inputs.bytes := by
  rw [Encode.publicBytes, Traced.result_bind, Traced.result_lift, read]
  rfl

/-- A key that is read is encoded as its bytes. -/
theorem keyBytes_of_read {source : Value} {key : VerificationKey}
    (read : (VerificationKey.read source).result = .ok key) :
    (Encode.keyBytes source).result = .ok key.bytes := by
  rw [Encode.keyBytes, Traced.result_bind, read]
  rfl

/-- Either no key is compared, or the key that was read is compared with its reference. -/
theorem buildKey_cases {subjects : Subjects} {names : List Value} {compared : Option Comparison}
    (built : (buildKey subjects names).result = .ok compared) :
    ((subjects.key = .null ∨ subjects.referenceKey = none) ∧ compared = none) ∨
      ∃ key reference comparison, ¬ (subjects.key = .null ∨ subjects.referenceKey = none) ∧
        (VerificationKey.read subjects.key).result = .ok key ∧ subjects.referenceKey = some reference ∧
        Comparison.ofNames key.bytes reference (Layout.key key.ic.length) names = .ok comparison ∧
        compared = some comparison := by
  -- A key is compared when there is one and there is a reference for it.
  by_cases missing : subjects.key = .null ∨ subjects.referenceKey = none
  · rw [result_buildKey_of_missing missing] at built
    exact Or.inl ⟨missing, (Except.ok.inj built).symm⟩
  · have given := not_or.mp missing
    obtain ⟨reference, found⟩ := Option.ne_none_iff_exists'.mp given.2
    rw [result_buildKey_of_given given.1 found, bind_eq_ok_iff] at built
    obtain ⟨key, read, later⟩ := built
    obtain ⟨comparison, made, kept⟩ := bind_eq_ok_iff.mp later
    exact Or.inr ⟨key, reference, comparison, missing, read, found, made, (Except.ok.inj kept).symm⟩

/-- The comparison of keys finds no difference exactly when there is none or nothing is compared. -/
theorem keyMatches_iff {subjects : Subjects} {names : List Value} {compared : Option Comparison}
    (built : (buildKey subjects names).result = .ok compared) :
    (∀ comparison ∈ compared, comparison.sameBytes = true) ↔
      (subjects.key = .null ∨ subjects.referenceKey = none) ∨
        ∃ reference, subjects.referenceKey = some reference ∧
          (Encode.keyBytes subjects.key).result = .ok reference := by
  rcases buildKey_cases built with ⟨missing, rfl⟩ | ⟨key, reference, comparison, given, read, found, made, rfl⟩
  · -- Where nothing is compared, nothing differs.
    simp [missing]
  · have same := Comparison.sameBytes_iff made
    constructor
    · intro all
      have equal := same.mp (all comparison rfl)
      exact Or.inr ⟨reference, found, by rw [keyBytes_of_read read, equal]⟩
    · intro equal other member
      rcases equal with missing | ⟨content, present, encoded⟩
      · exact absurd missing given
      · cases member
        have written := Except.ok.inj ((keyBytes_of_read read).symm.trans encoded)
        have shared := Option.some.inj (found.symm.trans present)
        exact same.mpr (written.trans shared.symm)

/-- All comparisons of a report are taken into account. -/
theorem allMatch_eq_true_iff (report : Report) : report.allMatch = true ↔
    report.proof.sameBytes = true ∧ report.publicInputs.sameBytes = true ∧
      ∀ comparison ∈ report.key, comparison.sameBytes = true := by
  obtain ⟨proof, publicInputs, key⟩ := report
  cases key <;> simp [allMatch, named]

/-- A report says that all artifacts match exactly when they equal their references. -/
theorem allMatch_iff {subjects : Subjects} {names : List Value} {report : Report}
    (built : (build subjects names).result = .ok report) :
    report.allMatch = true ↔ subjects.Equal := by
  obtain ⟨⟨proof, read, compared⟩, ⟨inputs, given, publicCompared⟩, keyBuilt⟩ :=
    result_build_eq_ok_iff.mp built
  -- A report is built of artifacts that were read, so that each comparison is one of an encoding.
  have proofSame := Comparison.sameBytes_iff compared
  have publicSame := Comparison.sameBytes_iff publicCompared
  have keySame := keyMatches_iff keyBuilt
  rw [allMatch_eq_true_iff, proofSame, publicSame, keySame]
  constructor
  · intro ⟨proofEqual, publicEqual, keyEqual⟩
    exact ⟨by rw [proofBytes_of_read read, proofEqual], by rw [publicBytes_of_read given, publicEqual],
      keyEqual⟩
  · intro equal
    have proofEqual := (proofBytes_of_read read).symm.trans equal.proof
    have publicEqual := (publicBytes_of_read given).symm.trans equal.publicInputs
    exact ⟨Except.ok.inj proofEqual, Except.ok.inj publicEqual, equal.key⟩

end Report

end ProofWire
