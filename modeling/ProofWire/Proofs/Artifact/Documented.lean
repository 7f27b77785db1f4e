import ProofWire.Proofs.Artifact.Steps
import ProofWire.Proofs.Word

/-! The failures of the encoders: documented faults, and the one failure that is not among them. -/

namespace ProofWire

/-- Every sequence within a value has a length with a decimal text. -/
def Value.Countable (source : Value) : Prop :=
  ∀ inner items, Occurs inner source → inner.items? = some items → items.length < Text.decimalBound

/-- A failure of an encoder: a documented fault, or a number that is too long for the message about it. -/
inductive Failure.Accounted (source : Value) : Failure → Prop where
  | documented {fault : Fault} (documented : fault.kind.categoryOf ∈ Category.documented) :
    Accounted source (.classified fault)
  | tooLong (long : ¬ (source.Writable ∧ source.Countable)) : Accounted source (.digits none)

/-- A refusal under a label is accounted for. -/
theorem Failure.Refuses.accounted {source : Value} {labels : List String} {failure : Failure}
    (refuses : failure.Refuses source labels) : failure.Accounted source := by
  -- A refusal has a fault with a category, or it has no words, and then not all numbers are short.
  cases refuses with
  | fault documented => exact .documented documented
  | tooLong unwritable => exact .tooLong fun short => unwritable short.1

/-- What a cause raises is accounted for when its message is written for short numbers. -/
theorem Failure.accounted_raise {source : Value} {cause : Cause}
    (worded : source.Writable ∧ source.Countable → cause.message?.isSome = true) :
    cause.raise.Accounted source := by
  -- Without a text for the message the failure has no category, and that takes a long number.
  rcases cause.raise_cases with ⟨message, raised⟩ | ⟨raised, wordless⟩
  · rw [raised]
    exact .documented cause.categoryOf_kind
  · rw [raised]
    exact .tooLong fun short => wordless (worded short)

/-- A count is refused in words that are written when the count has a text. -/
theorem Cause.isSome_countOutOfRange {count : Nat} (short : count < Text.decimalBound) :
    (Cause.countOutOfRange (.int count)).message?.isSome = true := by
  simp only [message?, Value.shown?, Value.quoted?, Text.decimal?_natCast short]
  rfl

namespace PublicInputs

/-- A signal that cannot be read is refused under the label of public inputs. -/
theorem refuses_of_readSignals {source : Value} {failure : Failure} :
    ∀ (items : List Value) (index : Nat), (∀ item ∈ items, source.Writable → item.Writable) →
      readSignals index items = .error failure → failure.Refuses source ["public"] := by
  -- The failure is that of the first item, or of the rest of the row.
  intro items
  induction items with
  | nil =>
    intro index within failed
    cases failed
  | cons item rest ih =>
    intro index within failed
    rcases bind_eq_error_iff.mp failed with refused | ⟨signal, _, later⟩
    · obtain ⟨cause, unread, rfl⟩ := located_eq_error_iff.mp refused
      exact (Scalar.unlocated_ofValue unread).refuses_mention.weaken
        (within item List.mem_cons_self) fun _ member => member
    · rcases bind_eq_error_iff.mp later with refused | ⟨signals, _, done⟩
      · exact ih (index + 1) (fun other member => within other (List.mem_cons_of_mem _ member)) refused
      · cases done

/-- One signal is read from each item. -/
theorem length_of_readSignals {index : Nat} {items : List Value} {signals : List Scalar}
    (read : readSignals index items = .ok signals) : signals.length = items.length :=
  (readSignals_eq_ok_iff.mp read).length_eq.symm

/-- A value that is no row of public inputs is refused by an accounted failure. -/
theorem accounted_of_ofValue {source : Value} {failure : Failure}
    (failed : PublicInputs.ofValue source = .error failure) : failure.Accounted source := by
  -- The kind of the value is tested first, then each signal, and the count last.
  rcases bind_eq_error_iff.mp failed with refused | ⟨items, arrayed, later⟩
  · unfold Value.array at refused
    split at refused
    · cases refused
    · rw [← Except.error.inj refused]
      exact Failure.accounted_raise fun _ => rfl
  · have given := Value.array_eq_ok_iff.mp arrayed
    rcases bind_eq_error_iff.mp later with refused | ⟨signals, read, later⟩
    · have within : ∀ item ∈ items, source.Writable → item.Writable := by
        intro item member writable
        exact writable.item given member
      exact (refuses_of_readSignals items 0 within refused).accounted
    · rcases bind_eq_error_iff.mp later with refused | ⟨few, _, done⟩
      · unfold Word.fitCount at refused
        split at refused
        · cases refused
        · rw [← Except.error.inj refused]
          refine Failure.accounted_raise fun short => Cause.isSome_countOutOfRange ?_
          rw [length_of_readSignals read]
          exact short.2 source items .self given
      · cases done

end PublicInputs

namespace Encode

/-- A failing step is accounted for. -/
theorem Step.accounted_of_fails {source : Value} {step : Step} {failure : Failure}
    (fails : step.run source = .error failure) : failure.Accounted source := by
  rcases refuses_of_fails fails with refuses | ⟨cause, unplaced, raised⟩
  · exact refuses.accounted
  · rw [raised]
    refine Failure.accounted_raise ?_
    intro short
    cases unplaced with
    | notArray held => rfl
    | overflow given many =>
      -- The row is a sequence within the key.
      obtain ⟨row, held, itemized⟩ := Option.bind_eq_some_iff.mp given
      exact Cause.isSome_countOutOfRange (short.2 row _ (Value.occurs_of_below? held) itemized)

/-- An encoder that ends as its steps do fails in accounted ways only. -/
theorem accounted_of_ended {encode : Value → Traced Bytes} {source : Value} {steps : List Step}
    {failure : Failure} (ends : ended (encode source).result = Step.runAll source steps)
    (failed : (encode source).result = .error failure) : failure.Accounted source := by
  -- The encoder fails as the first of its steps to fail, and single steps are accounted for.
  rw [← ended_eq_error_iff, ends, Step.runAll_eq_error_iff] at failed
  obtain ⟨before, step, first⟩ := failed
  exact Step.accounted_of_fails first.fails

/-- Public inputs that cannot be encoded are refused in an accounted way. -/
theorem accounted_of_publicBytes {source : Value} {failure : Failure}
    (failed : (publicBytes source).result = .error failure) : failure.Accounted source := by
  -- What is read is written without a failure.
  rw [publicBytes, Traced.result_bind, Traced.result_lift] at failed
  rcases bind_eq_error_iff.mp failed with refused | ⟨_, _, written⟩
  · exact PublicInputs.accounted_of_ofValue refused
  · cases written

/-- A value that is no proof is refused in an accounted way. -/
theorem accounted_of_readProof {source : Value} {failure : Failure}
    (failed : (Proof.read source).result = .error failure) : failure.Accounted source := by
  -- The encoder reads the proof first, and it fails as its steps do.
  refine accounted_of_ended (ended_proofBytes source) ?_
  rw [proofBytes, Traced.result_bind, failed]
  rfl

/-- A value that is no verification key is refused in an accounted way. -/
theorem accounted_of_readKey {source : Value} {failure : Failure}
    (failed : (VerificationKey.read source).result = .error failure) : failure.Accounted source := by
  -- So does the encoder of keys.
  refine accounted_of_ended (ended_keyBytes source) ?_
  rw [keyBytes, Traced.result_bind, failed]
  rfl

/-- The encoders of bytes. -/
def encoders : List (Value → Traced Bytes) :=
  [proofBytes, publicBytes, keyBytes]

/--
Every failure of an encoder is a fault of a documented category, unless a number is too long for its message.

As long as all numbers within a value, and the lengths of its sequences, have decimal texts, no other failure occurs.
-/
theorem encoder_failures_accounted (source : Value) :
    ∀ encode ∈ encoders, ∀ failure, (encode source).result = .error failure → failure.Accounted source := by
  intro encode member failure failed
  simp only [encoders, List.mem_cons, List.not_mem_nil, or_false] at member
  -- Proofs and keys fail as their steps do; public inputs are a loop of their own.
  rcases member with rfl | rfl | rfl
  · exact accounted_of_ended (ended_proofBytes source) failed
  · exact accounted_of_publicBytes failed
  · exact accounted_of_ended (ended_keyBytes source) failed

/-- A signal that is null is refused by a fault of a documented category. -/
theorem encoder_failures_accounted_null_signal :
    ∃ fault, (publicBytes (.list [.null])).result = .error (.classified fault) ∧
      fault.kind.categoryOf ∈ Category.documented := by
  -- Nothing here is too long, so that only a documented fault is left.
  have accounted := encoder_failures_accounted (.list [.null]) publicBytes (by simp [encoders]) _ rfl
  cases accounted with
  | documented documented => exact ⟨_, rfl, documented⟩

/-- A single signal whose number has no text is refused, and the refusal cannot be worded. -/
theorem publicBytes_of_long {signal : Value} {number : Nat} (read : signal.natural = .ok number)
    (long : Text.decimalBound ≤ number) : (publicBytes (.list [signal])).result = .error (.digits none) := by
  -- The modulus itself has a text, so a number without one is out of range.
  have outOfRange : ¬ number < scalarModulus := by
    have wide := Nat.le_trans Text.fieldBound_le_decimalBound long
    have modulus := Word.scalarModulus_lt_fieldBound
    omega
  have wordless : (Cause.scalarOutOfRange number).message? = none := by
    rw [Cause.message?, Text.decimal?_eq_none long]
    rfl
  have refused : Scalar.ofValue signal = .error (.digits none) := by
    rw [Scalar.ofValue, read, ← Cause.raise_eq_digits wordless]
    show (if inRange : number < scalarModulus then _ else _) = _
    rw [dif_neg outOfRange]
  have unread : PublicInputs.ofValue (.list [signal]) = .error (.digits none) := by
    simp only [PublicInputs.ofValue, Value.array, Value.items?, PublicInputs.readSignals, refused, located,
      Failure.mention, Bind.bind, Except.bind]
  rw [publicBytes, Traced.result_bind, Traced.result_lift, unread]
  rfl

/-- A point whose scale has no text is refused, and the refusal cannot be worded. -/
theorem g1_of_long {label : Option String} {x y z : Value} {number : Nat} (read : z.natural = .ok number)
    (long : Text.decimalBound ≤ number) : G1.ofValue label (.list [x, y, z]) = .error (.digits none) := by
  -- Zero and one have texts, so the scale is neither.
  have wide := Nat.le_trans Text.fieldBound_le_decimalBound long
  have large : 1 < Word.fieldBound := by decide
  have wordless : (Cause.nonAffineG1 label number).message? = none := by
    rw [Cause.message?, Text.decimal?_eq_none long]
    rfl
  have scaled : Point.scale label "z" z = .ok number := Point.scale_eq_ok_iff.mpr read
  simp only [G1.ofValue, Value.items?, scaled, Bind.bind, Except.bind]
  rw [if_neg (by omega), if_pos (by omega), Cause.raise_eq_digits wordless]

/-- A point at no affine place, scaled by a number. -/
def scaledPoint (number : Nat) : Value :=
  .list [.int 0, .int 0, .int number]

/-- The step for a point fails without words when the scale of the point has no text. -/
theorem run_scaledPoint {key : String} {number : Nat} (long : Text.decimalBound ≤ number) :
    (Step.g1 key).run (.object [(key, scaledPoint number)]) = .error (.digits none) := by
  -- The point is found under its key, and there its scale is refused first.
  have held : (Value.object [(key, scaledPoint number)]).below? key = some (scaledPoint number) := by
    simp [Value.below?, Value.entry, Except.toOption]
  rw [Step.run, held]
  show ended (Encode.g1 (some key) (scaledPoint number)).result = _
  rw [ended_g1, scaledPoint, g1_of_long rfl long]
  rfl

/-- The number with one digit too many makes each of the encoders fail outside the documented categories. -/
theorem encoder_failures_undocumented :
    (publicBytes (.list [.int Text.decimalBound])).result = .error (.digits none) ∧
      (proofBytes (.object [("pi_a", scaledPoint Text.decimalBound)])).result = .error (.digits none) ∧
      (keyBytes (.object [("vk_alpha_1", scaledPoint Text.decimalBound)])).result = .error (.digits none) := by
  -- In a proof and in a key the first point is found, and then refused for its scale.
  refine ⟨publicBytes_of_long rfl (Nat.le_refl _), ?_, ?_⟩
  · rw [← ended_eq_error_iff, ended_proofBytes, Step.runAll_eq_error_iff]
    exact ⟨[.find "pi_a"], .g1 "pi_a", ⟨_, rfl⟩, List.forall_mem_singleton.mpr rfl,
      run_scaledPoint (Nat.le_refl _)⟩
  · rw [← ended_eq_error_iff, ended_keyBytes, Step.runAll_eq_error_iff]
    exact ⟨[.find "vk_alpha_1"], .g1 "vk_alpha_1", ⟨_, rfl⟩, List.forall_mem_singleton.mpr rfl,
      run_scaledPoint (Nat.le_refl _)⟩

end Encode

end ProofWire
