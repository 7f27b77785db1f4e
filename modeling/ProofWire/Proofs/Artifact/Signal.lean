import ProofWire.Proofs.Artifact.Documented
import ProofWire.Proofs.Literal.Cause

/-! Failures of public inputs: the first signal that is refused decides, under its index, and the count is tested
last. -/

namespace ProofWire

/-- The fault of a number that lies beyond the scalar field, with the number and the modulus. -/
def Fault.scalarOutOfRange (number : Nat) : Fault :=
  ⟨.fieldElementOutOfRange, s!"field element {number} >= modulus {scalarModulus}",
    [("value", .int number), ("modulus", .int scalarModulus)]⟩

/-- The fault of a signal under its index: kind and message stay, and the context gets the place and nothing else. -/
def Fault.atSignal (fault : Fault) (index : Nat) : Fault :=
  ⟨fault.kind, fault.message, fault.context ++ [("label", .text "public"), ("index", .int index)]⟩

/-- A context without a place takes up the place of a signal behind what it knows. -/
theorem Context.mentionAll_signal {context : Context}
    (unplaced : context.lookup "label" = none ∧ context.lookup "index" = none) (index : Nat) :
    context.mentionAll [("label", .text "public"), ("index", .int index)] =
      context ++ [("label", .text "public"), ("index", .int index)] := by
  -- Neither key is known, and the first mention does not make the second one known.
  have label : context.mention ("label", Value.text "public") = context ++ [("label", Value.text "public")] := by
    simp [mention, unplaced.1]
  have other : (context ++ [("label", Value.text "public")]).lookup "index" = none := by
    rw [List.lookup_append, unplaced.2, Option.none_or]
    rfl
  show (context.mention ("label", Value.text "public")).mention ("index", Value.int index) = _
  rw [label, mention, other]
  simp

/-- A fault of a signal is located at its label and its index, if the index has a text. -/
theorem Fault.location?_atSignal {fault : Fault}
    (unplaced : fault.context.lookup "label" = none ∧ fault.context.lookup "index" = none) (index : Nat) :
    (fault.atSignal index).location? =
      (Text.decimal? index).map fun place => .text ("public[" ++ place ++ "]") := by
  -- The label and the index are the ones that were added.
  have label : (fault.atSignal index).context.lookup "label" = some (.text "public") := by
    rw [atSignal, List.lookup_append, unplaced.1, Option.none_or]
    rfl
  have place : (fault.atSignal index).context.lookup "index" = some (.int index) := by
    rw [atSignal, List.lookup_append, unplaced.2, Option.none_or]
    rfl
  have placed : (fault.atSignal index).PlacedAt (.text "public") (.int index) := ⟨label, place, nofun, nofun⟩
  rw [placed.location?_eq]
  simp only [Value.shown?, Value.quoted?]
  generalize Text.decimal? index = written
  cases written <;> rfl

/-- A fault of a signal is described behind the name of its place, if the index has a text. -/
theorem Fault.describe?_atSignal {fault : Fault}
    (unplaced : fault.context.lookup "label" = none ∧ fault.context.lookup "index" = none) (index : Nat) :
    (fault.atSignal index).describe? =
      (Text.decimal? index).map fun place => "public[" ++ place ++ "]" ++ ": " ++ fault.message := by
  have located := location?_atSignal unplaced index
  generalize Text.decimal? index = written at located ⊢
  cases written with
  | none =>
    rw [describe?, located]
    rfl
  | some written =>
    -- A place is never empty.
    have named : "public[" ++ written ++ "]" ≠ "" := by simp [← String.toList_inj]
    rw [describe?_of_location located named]
    rfl

namespace Scalar

/-- The causes for which a value is refused as a scalar: those of literals, or a number beyond the modulus. -/
inductive Refuses (source : Value) : Cause → Prop where
  | literal {cause : Cause} (refuses : Literal.Refuses cause) : Refuses source cause
  | tooLarge {number : Nat} (read : source.natural = .ok number) (large : scalarModulus ≤ number) :
    Refuses source (.scalarOutOfRange number)

/-- No cause that refuses a scalar knows a place. -/
theorem Refuses.unplaced {source : Value} {cause : Cause} (refuses : Refuses source cause) :
    cause.context.lookup "label" = none ∧ cause.context.lookup "index" = none := by
  -- The words of the cause speak of the number alone.
  cases refuses with
  | literal refuses => exact refuses.unplaced
  | tooLarge => exact ⟨rfl, rfl⟩

/-- A value is refused as a scalar for one of these causes. -/
theorem raised_ofValue {source : Value} {failure : Failure} (failed : ofValue source = .error failure) :
    failure.RaisedFor (Refuses source) := by
  -- Either no number is read, or the one that is read lies beyond the modulus.
  rcases bind_eq_error_iff.mp failed with refused | ⟨number, read, refused⟩
  · obtain ⟨cause, refuses, raised⟩ := Value.raised_natural refused
    exact ⟨cause, .literal refuses, raised⟩
  · split at refused
    · cases refused
    · rename_i outside
      exact ⟨_, .tooLarge read (Nat.not_lt.mp outside), (Except.error.inj refused).symm⟩

/-- A writable value that is no scalar is refused by a fault, which knows no place. -/
theorem exists_fault_ofValue {source : Value} {failure : Failure} (writable : source.Writable)
    (failed : ofValue source = .error failure) :
    ∃ cause message, Refuses source cause ∧ failure = .classified ⟨cause.kind, message, cause.context⟩ :=
  (raised_ofValue failed).exists_fault (unlocated_ofValue failed) writable

/-- A writable number beyond the modulus is refused with the number and the modulus. -/
theorem ofValue_of_tooLarge {source : Value} {number : Nat} (writable : source.Writable)
    (read : source.natural = .ok number) (large : scalarModulus ≤ number) :
    ofValue source = .error (.classified (.scalarOutOfRange number)) := by
  -- The number has a text, so the message can be worded.
  have worded : (Cause.scalarOutOfRange number).message? =
      some s!"field element {number} >= modulus {scalarModulus}" := by
    simp only [Cause.message?, Text.decimal?_natCast (writable.natural_lt read)]
    rfl
  simp only [ofValue, read, Bind.bind, Except.bind, Nat.not_lt.mpr large, dite_false,
    Cause.raise_eq_classified _ worded]
  rfl

/-- A writable value is refused as out of range exactly when its number lies beyond the modulus. -/
theorem outOfRange_iff {source : Value} {fault : Fault} (writable : source.Writable)
    (kind : fault.kind = .fieldElementOutOfRange) :
    ofValue source = .error (.classified fault) ↔
      ∃ number, source.natural = .ok number ∧ scalarModulus ≤ number ∧ fault = .scalarOutOfRange number := by
  constructor
  · intro failed
    obtain ⟨cause, message, refuses, same⟩ := exists_fault_ofValue writable failed
    cases same
    cases refuses with
    | literal refuses =>
      -- No cause of literals has this kind.
      have other := refuses.kind_mem
      rw [show cause.kind = .fieldElementOutOfRange from kind] at other
      simp [Literal.faultKinds] at other
    | tooLarge read large =>
      have refused := ofValue_of_tooLarge writable read large
      rw [failed] at refused
      cases refused
      exact ⟨_, read, large, rfl⟩
  · rintro ⟨number, read, large, rfl⟩
    exact ofValue_of_tooLarge writable read large

end Scalar

namespace PublicInputs

/-- The signals before an index are scalars, and the one at the index is refused. -/
structure FirstRefused (items : List Value) (index : Nat) (failure : Failure) : Prop where
  earlier : ∀ item ∈ items.take index, ∃ scalar, Scalar.ofValue item = .ok scalar
  refused : ∃ item, items[index]? = some item ∧ Scalar.ofValue item = .error failure

/-- Items that agree up to an index have the same first refusal there. -/
theorem FirstRefused.transfer {items others : List Value} {index : Nat} {failure : Failure}
    (first : FirstRefused items index failure) (alike : others.take (index + 1) = items.take (index + 1)) :
    FirstRefused others index failure where
  -- All that is asked for lies at or before the index.
  earlier := by
    have front : others.take index = items.take index := by
      simpa only [List.take_take, Nat.min_eq_left (Nat.le_succ index)] using congrArg (List.take index) alike
    rw [front]
    exact first.earlier
  refused := by
    have here : others[index]? = items[index]? := by
      rw [← List.getElem?_take_of_lt (Nat.lt_succ_self index), alike, List.getElem?_take_of_lt (Nat.lt_succ_self index)]
    rw [here]
    exact first.refused

/-- Signals fail to be read exactly as the first one that is refused, under its index. -/
theorem readSignals_eq_error_iff {items : List Value} {failure : Failure} (start : Nat) :
    readSignals start items = .error failure ↔ ∃ index own, FirstRefused items index own ∧
      failure = own.mention [("label", .text "public"), ("index", .int (start + index : Nat))] := by
  -- The first item is refused, or the index of the refused one counts on behind it.
  induction items generalizing start with
  | nil =>
    constructor
    · intro failed
      cases failed
    · rintro ⟨index, own, ⟨_, ⟨item, there, _⟩⟩, _⟩
      cases there
  | cons item rest ih =>
    rw [readSignals, bind_eq_error_iff]
    constructor
    · rintro (failed | ⟨scalar, passed, later⟩)
      · obtain ⟨own, refused, rfl⟩ := located_eq_error_iff.mp failed
        exact ⟨0, own, ⟨List.forall_mem_nil _, item, rfl, refused⟩, rfl⟩
      · rcases bind_eq_error_iff.mp later with failed | ⟨_, _, done⟩
        · obtain ⟨index, own, first, rfl⟩ := (ih (start + 1)).mp failed
          refine ⟨index + 1, own, ⟨?_, first.refused⟩, by rw [Nat.add_assoc, Nat.add_comm 1]⟩
          rw [List.take_succ_cons, List.forall_mem_cons]
          exact ⟨⟨scalar, located_eq_ok_iff.mp passed⟩, first.earlier⟩
        · cases done
    · rintro ⟨index, own, ⟨earlier, ⟨found, there, refused⟩⟩, rfl⟩
      cases index with
      | zero =>
        cases there
        exact .inl (located_eq_error_iff.mpr ⟨own, refused, rfl⟩)
      | succ index =>
        rw [List.take_succ_cons, List.forall_mem_cons] at earlier
        obtain ⟨⟨scalar, passed⟩, earlier⟩ := earlier
        -- The signal in front passes under its own index, and the refused one keeps the index that it had.
        have onward : start + (index + 1) = start + 1 + index := by omega
        have behind := (ih (start + 1)).mpr ⟨index, own, ⟨earlier, found, there, refused⟩, by rw [onward]⟩
        exact .inr ⟨scalar, located_eq_ok_iff.mpr passed, bind_eq_error_iff.mpr (.inl behind)⟩

/-- Items whose signals were read are scalars. -/
theorem forall_scalar_of_readSignals {start : Nat} {items : List Value} {signals : List Scalar}
    (read : readSignals start items = .ok signals) : ∀ item ∈ items, ∃ scalar, Scalar.ofValue item = .ok scalar := by
  -- Each signal is the scalar of its item.
  have each := readSignals_eq_ok_iff.mp read
  clear read
  induction each with
  | nil => exact List.forall_mem_nil _
  | @cons _ signal _ _ first _ ih =>
    rw [List.forall_mem_cons]
    exact ⟨⟨signal, Scalar.ofValue_eq_ok_iff.mpr first⟩, ih⟩

/-- A signal is refused under its index as a literal or out of range, never for a length. -/
theorem kind_ne_of_firstRefused {items : List Value} {index place : Nat} {own : Failure} {fault : Fault}
    (first : FirstRefused items index own)
    (same : .classified fault = own.mention [("label", .text "public"), ("index", .int place)]) :
    fault.kind ≠ .invalidLength := by
  -- A mention of the place leaves the kind as it is.
  obtain ⟨item, _, failed⟩ := first.refused
  obtain ⟨cause, refuses, kind⟩ := (Scalar.raised_ofValue failed).kind_of_mention same.symm
  rw [kind]
  cases refuses with
  | literal refuses =>
    -- The causes of literals have kinds of their own.
    have member := refuses.kind_mem
    intro length
    simp [length, Literal.faultKinds] at member
  | tooLarge => simp [Cause.kind]

/-- A row of items whose first refused signal is known fails with the failure of that signal, under its index. -/
theorem result_publicBytes_of_firstRefused {source : Value} {items : List Value} {index : Nat} {own : Failure}
    (given : source.items? = some items) (first : FirstRefused items index own) :
    (Encode.publicBytes source).result =
      .error (own.mention [("label", .text "public"), ("index", .int index)]) := by
  have failed := (readSignals_eq_error_iff 0).mpr ⟨index, own, first, rfl⟩
  rw [Nat.zero_add] at failed
  -- Nothing but the kind of the value is tested before the signals.
  rw [Encode.publicBytes, Traced.result_bind, Traced.result_lift]
  simp only [PublicInputs.ofValue, Value.array, given, failed, Bind.bind, Except.bind]

/-- The count is refused only behind signals that are all scalars, when they are too many. -/
theorem exists_scalars_of_invalidLength {source : Value} {fault : Fault}
    (failed : (Encode.publicBytes source).result = .error (.classified fault)) (kind : fault.kind = .invalidLength) :
    ∃ items, source.items? = some items ∧ (∀ item ∈ items, ∃ scalar, Scalar.ofValue item = .ok scalar) ∧
      Word.countBound ≤ items.length := by
  -- Of the steps of the encoder, in order, only the last one tests the count.
  rw [Encode.publicBytes, Traced.result_bind, Traced.result_lift] at failed
  rcases bind_eq_error_iff.mp failed with unread | ⟨_, _, written⟩
  · rcases bind_eq_error_iff.mp unread with refused | ⟨items, arrayed, later⟩
    · -- A value that is no row is refused as such.
      unfold Value.array at refused
      split at refused
      · cases refused
      · have raised := Cause.raise_eq_classified (.notArray "public signals" source.shape) rfl
        rw [raised] at refused
        cases refused
        cases kind
    · refine ⟨items, Value.array_eq_ok_iff.mp arrayed, ?_⟩
      rcases bind_eq_error_iff.mp later with refused | ⟨signals, read, last⟩
      · obtain ⟨index, own, first, same⟩ := (readSignals_eq_error_iff 0).mp refused
        exact absurd kind (kind_ne_of_firstRefused first same)
      · refine ⟨forall_scalar_of_readSignals read, ?_⟩
        rcases bind_eq_error_iff.mp last with refused | ⟨_, _, done⟩
        · -- There are as many signals as items.
          unfold Word.fitCount at refused
          split at refused
          · cases refused
          · rename_i many
            rw [← length_of_readSignals read]
            exact Nat.not_lt.mp many
        · cases done
  · cases written

end PublicInputs

/--
Failures of public inputs are those of the first signal that is refused.

The kind and the message are those of the signal itself, and its context gets the label and the index and nothing else,
which show in front of the message. What stands behind that signal has no part in it. A value is refused as out of range
exactly when its number lies beyond the modulus, with both numbers. A value that is no row is refused as such, and the
count only behind signals that are all scalars and too many.
-/
theorem public_failures_name_first_signal (source : Value) (writable : source.Writable) :
    (∀ items index own, source.items? = some items → PublicInputs.FirstRefused items index own →
      ∃ fault, own = .classified fault ∧
        (fault.atSignal index).describe? =
          (Text.decimal? index).map (fun place => "public[" ++ place ++ "]" ++ ": " ++ fault.message) ∧
        ∀ other others, other.items? = some others → others.take (index + 1) = items.take (index + 1) →
          (Encode.publicBytes other).result = .error (.classified (fault.atSignal index))) ∧
      (∀ fault, fault.kind = .fieldElementOutOfRange →
        (Scalar.ofValue source = .error (.classified fault) ↔
          ∃ number, source.natural = .ok number ∧ scalarModulus ≤ number ∧ fault = .scalarOutOfRange number)) ∧
      (source.items? = none → (Encode.publicBytes source).result = .error (.classified
        ⟨.notAnArray, "public signals must be an array, got " ++ source.shape, [("shape", .text source.shape)]⟩)) ∧
      ∀ fault, (Encode.publicBytes source).result = .error (.classified fault) → fault.kind = .invalidLength →
        ∃ items, source.items? = some items ∧ (∀ item ∈ items, ∃ scalar, Scalar.ofValue item = .ok scalar) ∧
          2 ^ 32 ≤ items.length := by
  refine ⟨fun items index own given first => ?_, fun fault kind => Scalar.outOfRange_iff writable kind,
    fun single => ?_, fun fault failed kind => PublicInputs.exists_scalars_of_invalidLength failed kind⟩
  · -- The signal's own fault knows no place, so it takes up the one that is mentioned.
    obtain ⟨item, there, refused⟩ := first.refused
    have within : item.Writable := writable.item given (List.mem_of_getElem? there)
    obtain ⟨cause, message, refuses, rfl⟩ := Scalar.exists_fault_ofValue within refused
    refine ⟨_, rfl, Fault.describe?_atSignal refuses.unplaced index, fun other others otherGiven alike => ?_⟩
    -- A row that agrees up to the signal has the same one refused first.
    rw [PublicInputs.result_publicBytes_of_firstRefused otherGiven (first.transfer alike), Failure.mention,
      Fault.mention, Context.mentionAll_signal refuses.unplaced, Fault.atSignal]
  · -- A value without items is refused before any signal is read.
    rw [Encode.publicBytes, Traced.result_bind, Traced.result_lift]
    simp only [PublicInputs.ofValue, Value.array, single, Bind.bind, Except.bind]
    rfl

/-- Public inputs whose third signal is nothing and whose last one is the modulus. -/
def gappedInputs : Value :=
  .list [.int 5, .text "0x1f", .null, .int scalarModulus]

/-- The numbers of these inputs are short. -/
theorem gappedInputs_writable : gappedInputs.Writable := by
  -- Numbers below the bound of a word have texts.
  have short {number : Nat} (small : number < Word.fieldBound) : number < Text.decimalBound :=
    Nat.lt_of_lt_of_le small Text.fieldBound_le_decimalBound
  have text : (Value.text "0x1f").Writable := by
    intro inner within
    cases within with
    | self => exact fun _ => short (by decide : 31 < Word.fieldBound)
    | item given => cases given
  have five : (Value.int 5).Writable := .int (short (by decide : 5 < Word.fieldBound))
  refine .list (List.forall_mem_cons.mpr ⟨five, List.forall_mem_cons.mpr ⟨text, ?_⟩⟩)
  exact List.forall_mem_cons.mpr ⟨.null, List.forall_mem_singleton.mpr (.int (short Word.scalarModulus_lt_fieldBound))⟩

/-- The third signal is named, and the modulus behind it is not looked at; alone, it is refused as out of range. -/
theorem public_failures_name_first_signal_third :
    (∃ fault : Fault, fault.kind = .unsupportedLiteralType ∧
      (Encode.publicBytes gappedInputs).result = .error (.classified (fault.atSignal 2)) ∧
      (fault.atSignal 2).describe? = some "public[2]: unsupported field element type: NoneType") ∧
      Scalar.ofValue (.int scalarModulus) = .error (.classified (.scalarOutOfRange scalarModulus)) := by
  have short : scalarModulus < Text.decimalBound :=
    Nat.lt_of_lt_of_le Word.scalarModulus_lt_fieldBound Text.fieldBound_le_decimalBound
  constructor
  · -- The two signals before it are read, one of them from a text.
    have first : PublicInputs.FirstRefused [.int 5, .text "0x1f", .null, .int scalarModulus] 2
        (Cause.unsupportedElement "NoneType").raise := by
      have five : ∃ scalar, Scalar.ofValue (.int 5) = .ok scalar := ⟨⟨5, by decide⟩, rfl⟩
      have hex : ∃ scalar, Scalar.ofValue (.text "0x1f") = .ok scalar := ⟨⟨31, by decide⟩, rfl⟩
      refine ⟨List.forall_mem_cons.mpr ⟨five, List.forall_mem_singleton.mpr hex⟩, ?_⟩
      exact ⟨.null, rfl, rfl⟩
    obtain ⟨fault, own, described, fails⟩ :=
      (public_failures_name_first_signal gappedInputs gappedInputs_writable).1 _ 2 _ rfl first
    cases own
    refine ⟨_, rfl, fails gappedInputs _ rfl rfl, ?_⟩
    rw [described, Text.decimal?_natCast (Nat.lt_of_lt_of_le (by decide) Text.fieldBound_le_decimalBound)]
    rfl
  · have exact := (public_failures_name_first_signal (.int scalarModulus) (.int short)).2.1
    exact (exact (.scalarOutOfRange scalarModulus) rfl).mpr ⟨scalarModulus, rfl, Nat.le_refl _, rfl⟩

end ProofWire
