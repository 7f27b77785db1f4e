import ProofWire.Proofs.Artifact.Documented
import ProofWire.Proofs.Comparison.Match

/-! Reports step by step: the first step that fails ends the whole report, and no failure comes from sizing the layouts
by values that only the encoders have looked at. -/

namespace ProofWire

namespace Value

/-- How many items, entries or characters a value has; a value of another kind has no length. -/
def length : Value → Except Failure Nat
  | .list items | .tuple items => .ok items.length
  | .object entries => .ok entries.length
  | .text content => .ok content.length
  | .bytes content => .ok content.length
  | .null | .bool _ | .int _ | .float _ | .literal _ => .error .wrongType

/-- What a value has under a key that is taken for granted; a value other than an object has nothing under keys. -/
def member (source : Value) (key : String) : Except Failure Value :=
  match source with
  | .object entries =>
    match entries.lookup key with
    | some value => .ok value
    | none => .error .missingKey
  | _ => .error .wrongType

/-- A list or a tuple has as many items as its length tells. -/
theorem length_of_items? {source : Value} {items : List Value} (given : source.items? = some items) :
    source.length = .ok items.length := by
  -- Only lists and tuples have items.
  cases source with
  | list | tuple =>
    cases given
    rfl
  | _ => cases given

/-- What an object holds is found under its key. -/
theorem Holds.member {source value : Value} {key : String} (held : source.Holds key value) :
    source.member key = .ok value := by
  obtain ⟨entries, rfl, found⟩ := held
  rw [Value.member, found]

end Value

namespace Traced

/-- What follows a computation matters only on what that computation returns. -/
theorem bind_congr {α β : Type} {first : Traced α} {next other : α → Traced β}
    (same : ∀ value, first.result = .ok value → next value = other value) : first >>= next = first >>= other := by
  -- A failure leaves out whatever follows.
  obtain ⟨events, result⟩ := first
  cases result with
  | ok value => simp only [Bind.bind, bind, same value rfl]
  | error failure => rfl

/-- What is done to a result without a report can be done by what follows. -/
theorem bind_pure_bind {α β γ : Type} (first : Traced α) (finish : α → β) (next : β → Traced γ) :
    ((first >>= fun value => pure (finish value)) >>= next) = first >>= fun value => next (finish value) := by
  -- What is done without a report can wait for the next part.
  obtain ⟨events, result⟩ := first
  cases result with
  | ok value => simp [Bind.bind, bind, pure]
  | error failure => rfl

end Traced

/-- The end of a sequence is that of its first part, and then whatever is the end of the second one on what the first
returned. -/
theorem ended_bind {α β : Type} {first : Except Failure α} {next : α → Except Failure β} {rest : Except Failure Unit}
    (same : ∀ value, first = .ok value → ended (next value) = rest) :
    ended (first >>= next) = ended first >>= fun _ => rest := by
  -- The second part counts only where the first one returned.
  cases first with
  | ok value => exact same value rfl
  | error failure => rfl

/-- What is done to a value at the end of a sequence does not show in its end. -/
theorem ended_bind_ok {α β : Type} (first : Except Failure α) (finish : α → β) :
    ended (first >>= fun value => .ok (finish value)) = ended first := by
  cases first <;> rfl

/-- Public inputs that are read are as many as the length of their value. -/
theorem PublicInputs.length_of_ofValue {source : Value} {inputs : PublicInputs} (read : ofValue source = .ok inputs) :
    source.length = .ok inputs.signals.length := by
  obtain ⟨given, items, _⟩ := exists_ofValue_iff.mp ⟨inputs, read, rfl⟩
  rw [Value.length_of_items? given, items.length_eq, List.length_map]

/-- A key that is read has a row of as many points as the length of the value under its key. -/
theorem VerificationKey.length_of_read {source : Value} {key : VerificationKey}
    (done : (read source).result = .ok key) :
    ∃ row, source.member "IC" = .ok row ∧ row.length = .ok key.ic.length := by
  -- Each item of the row gave one point.
  obtain ⟨held, given, _, points⟩ := (exists_read_iff.mp ⟨key, done, rfl⟩).ic
  refine ⟨_, held.member, ?_⟩
  rw [Value.length_of_items? given, points.length_eq, VerificationKey.words, List.length_map]

namespace Report

/-- The comparison of the verification key, its layout sized by the length of what the value has under the key of the
row. -/
def buildKeyByLength (subjects : Subjects) (names : List Value) : Traced (Option Comparison) :=
  match subjects.key, subjects.referenceKey with
  | .null, _ | _, none => return none
  | source, some reference => do
    let content ← Encode.keyBytes source
    let row ← Traced.lift (source.member "IC")
    let count ← Traced.lift row.length
    let comparison ← Traced.lift (Comparison.ofNames content reference (Layout.key count) names)
    return some comparison

/-- Encodes the artifacts in order and compares each with its reference, the layouts sized by the lengths of the
values. -/
def buildByLength (subjects : Subjects) (algorithms : List Value) : Traced Report := do
  let names := algorithmsOr algorithms
  let proof ← Encode.proofBytes subjects.proof
  let proofComparison ← Traced.lift (Comparison.ofNames proof subjects.referenceProof Layout.proof names)
  let inputs ← Encode.publicBytes subjects.publicInputs
  let count ← Traced.lift subjects.publicInputs.length
  let publicComparison ← Traced.lift
    (Comparison.ofNames inputs subjects.referencePublic (Layout.publicInputs count) names)
  let keyComparison ← buildKeyByLength subjects names
  return ⟨proofComparison, publicComparison, keyComparison⟩

/-- The length of a row that was encoded is known, so that sizing by it is sizing by the points that were read. -/
theorem buildKeyByLength_eq (subjects : Subjects) (names : List Value) :
    buildKeyByLength subjects names = buildKey subjects names := by
  have compared (source : Value) (reference : Bytes) :
      (do
        let content ← Encode.keyBytes source
        let row ← Traced.lift (source.member "IC")
        let count ← Traced.lift row.length
        let comparison ← Traced.lift (Comparison.ofNames content reference (Layout.key count) names)
        return some comparison) =
      (do
        let key ← VerificationKey.read source
        let comparison ← Traced.lift (Comparison.ofNames key.bytes reference (Layout.key key.ic.length) names)
        return some comparison : Traced (Option Comparison)) := by
    rw [Encode.keyBytes, Traced.bind_pure_bind]
    refine Traced.bind_congr fun key read => ?_
    obtain ⟨row, found, length⟩ := VerificationKey.length_of_read read
    rw [found, Traced.lift_ok_bind, length, Traced.lift_ok_bind]
  -- A key that is null or has no reference is not looked at.
  obtain ⟨_, _, key, _, _, referenceKey⟩ := subjects
  cases referenceKey with
  | none => cases key <;> rfl
  | some reference =>
    cases key with
    | null => rfl
    | _ => exact compared _ reference

/-- The lengths of values that were encoded are known, so that sizing by them is sizing by what was read. -/
theorem buildByLength_eq (subjects : Subjects) (algorithms : List Value) :
    buildByLength subjects algorithms = build subjects algorithms := by
  unfold buildByLength build
  -- Both take the same steps but for the length, which is asked for behind the encoder of the public inputs.
  rw [Encode.proofBytes, Traced.bind_pure_bind]
  refine Traced.bind_congr fun proof _ => Traced.bind_congr fun proofComparison _ => ?_
  rw [Encode.publicBytes, Traced.bind_pure_bind]
  refine Traced.bind_congr fun inputs read => ?_
  rw [PublicInputs.length_of_ofValue read, Traced.lift_ok_bind]
  exact Traced.bind_congr fun publicComparison _ => by rw [buildKeyByLength_eq]

/-- The steps of a report. -/
inductive Step where
  /-- The proof is encoded. -/
  | proof
  /-- All algorithms are known. -/
  | algorithms
  /-- The public inputs are encoded. -/
  | publicInputs
  /-- The verification key is encoded. -/
  | key

/-- The first of some names that names no algorithm fails. -/
def checkNames (names : List String) : Except Failure Unit :=
  match names.find? fun name => (Algorithm.ofName? name).isNone with
  | some name => .error (.unsupportedAlgorithm name)
  | none => .ok ()

/-- What a step does on its own. -/
def Step.run (subjects : Subjects) (names : List String) : Step → Except Failure Unit
  | .proof => ended (Encode.proofBytes subjects.proof).result
  | .algorithms => checkNames names
  | .publicInputs => ended (Encode.publicBytes subjects.publicInputs).result
  | .key => ended (Encode.keyBytes subjects.key).result

/-- A verification key is compared when its value is not null and there is a reference. -/
def Subjects.comparesKey (subjects : Subjects) : Bool :=
  subjects.key.isGiven && subjects.referenceKey.isSome

/-- The steps of a report in order. -/
def steps (subjects : Subjects) : List Step :=
  [.proof, .algorithms, .publicInputs] ++ if subjects.comparesKey then [.key] else []

/-- No key is compared exactly when one of its sides is missing. -/
theorem Subjects.comparesKey_eq_false_iff {subjects : Subjects} :
    subjects.comparesKey = false ↔ subjects.key = .null ∨ subjects.referenceKey = none := by
  -- Every other value is given, however empty.
  have given : subjects.key.isGiven = false ↔ subjects.key = .null := by
    cases subjects.key <;> simp [Value.isGiven]
  rw [comparesKey, Bool.and_eq_false_iff, given, Option.isSome_eq_false_iff, Option.isNone_iff_eq_none]

/-- Names are looked up in order, the first unknown one fails. -/
theorem ended_mapM_names (names : List String) :
    ended ((names.map Value.text).mapM Algorithm.ofValue) = checkNames names := by
  -- The first name is unknown and ends both, or it is known and the rest decides.
  induction names with
  | nil => rfl
  | cons name rest ih =>
    rw [List.map_cons, List.mapM_cons]
    cases known : Algorithm.ofName? name with
    | none =>
      have refused : Algorithm.ofValue (.text name) = .error (.unsupportedAlgorithm name) := by
        simp only [Algorithm.ofValue, Algorithm.ofValue?, known]
        rfl
      rw [refused, checkNames, List.find?_cons_of_pos (by simp [known])]
      rfl
    | some algorithm =>
      have found : Algorithm.ofValue (.text name) = .ok algorithm := by
        simp only [Algorithm.ofValue, Algorithm.ofValue?, known]
      have onward : checkNames (name :: rest) = checkNames rest := by
        rw [checkNames, List.find?_cons_of_neg (by simp [known]), checkNames]
      rw [found, onward, ← ih]
      exact ended_bind_ok _ _

/-- Names are looked up as they stand, and no name stands for a known one. -/
theorem ended_algorithms (names : List String) :
    ended ((algorithmsOr (names.map .text)).mapM Algorithm.ofValue) = checkNames names := by
  -- The default algorithm is known, and no name is unknown among none.
  cases names with
  | nil => rfl
  | cons name rest => exact ended_mapM_names (name :: rest)

/-- The comparison of keys ends as the encoder of the key does, once the algorithms are known. -/
theorem ended_buildKey {subjects : Subjects} {names : List Value} {algorithms : List Algorithm}
    (resolved : names.mapM Algorithm.ofValue = .ok algorithms) :
    ended (buildKey subjects names).result =
      if subjects.comparesKey then ended (Encode.keyBytes subjects.key).result else .ok () := by
  cases compares : subjects.comparesKey with
  | false =>
    rw [result_buildKey_of_missing (Subjects.comparesKey_eq_false_iff.mp compares)]
    rfl
  | true =>
    have present : ¬ (subjects.key = .null ∨ subjects.referenceKey = none) := by
      rw [← Subjects.comparesKey_eq_false_iff, compares]
      nofun
    obtain ⟨given, referenced⟩ := not_or.mp present
    obtain ⟨reference, found⟩ := Option.ne_none_iff_exists'.mp referenced
    rw [result_buildKey_of_given given found, Encode.keyBytes, Traced.result_bind, if_pos rfl]
    -- Behind the key nothing fails any more, on either side.
    simp only [Comparison.ofNames_of_resolved resolved]
    exact (ended_bind_ok _ _).trans (ended_bind_ok _ _).symm

/-- The last step of a report is there when a key is compared. -/
theorem runInOrder_steps (subjects : Subjects) (names : List String) :
    runInOrder (Step.run subjects names) (steps subjects) =
      ended (Encode.proofBytes subjects.proof).result >>= fun _ => checkNames names >>= fun _ =>
        ended (Encode.publicBytes subjects.publicInputs).result >>= fun _ =>
          if subjects.comparesKey then ended (Encode.keyBytes subjects.key).result else .ok () := by
  rw [steps]
  cases subjects.comparesKey with
  | false => rfl
  | true =>
    -- The last step ends the run as it ends itself.
    have last : runInOrder (Step.run subjects names) [.key] = ended (Encode.keyBytes subjects.key).result := by
      rw [runInOrder, runInOrder, Step.run]
      cases ended (Encode.keyBytes subjects.key).result <;> rfl
    rw [if_pos rfl, if_pos rfl, ← last]
    rfl

/-- A report ends as its steps do. -/
theorem ended_build (subjects : Subjects) (names : List String) :
    ended (build subjects (names.map .text)).result = runInOrder (Step.run subjects names) (steps subjects) := by
  -- Every comparison looks up all names, so that only the first one can fail for them.
  have compared (ours reference : Bytes) (layout : List Slot) :
      ended (Comparison.ofNames ours reference layout (algorithmsOr (names.map .text))) = checkNames names :=
    (ended_bind_ok _ _).trans (ended_algorithms names)
  have proofEnd : ended (Proof.read subjects.proof).result = ended (Encode.proofBytes subjects.proof).result := by
    rw [Encode.proofBytes, Traced.result_bind]
    exact (ended_bind_ok _ _).symm
  have publicEnd : ended (PublicInputs.ofValue subjects.publicInputs) =
      ended (Encode.publicBytes subjects.publicInputs).result := by
    rw [Encode.publicBytes, Traced.result_bind]
    exact (ended_bind_ok _ _).symm
  simp only [build, Traced.result_bind, Traced.result_lift, Traced.result_pure]
  -- Both sides begin with the same artifact, and what comes behind is compared on what it returned.
  rw [runInOrder_steps, ← proofEnd, ← publicEnd]
  refine ended_bind fun proof _ => ?_
  rw [← compared proof.bytes subjects.referenceProof Layout.proof]
  refine ended_bind fun proofComparison made => ?_
  obtain ⟨algorithms, resolved, _⟩ := Comparison.ofNames_eq_ok_iff.mp made
  refine ended_bind fun inputs _ => ?_
  -- From here on the algorithms are known, so that only the key is left.
  rw [Comparison.ofNames_of_resolved resolved, ← ended_buildKey resolved]
  exact ended_bind_ok _ _

/-- A report fails as one of its encoders does, or for a name that names no algorithm. -/
theorem failure_cases {subjects : Subjects} {names : List String} {step : Step} {failure : Failure}
    (fails : step.run subjects names = .error failure) :
    (∃ source ∈ [subjects.proof, subjects.publicInputs, subjects.key], failure.Accounted source) ∨
      ∃ name ∈ names, Algorithm.ofName? name = none ∧ failure = .unsupportedAlgorithm name := by
  -- Three of the steps are those of encoders, and the fourth looks up the names.
  cases step with
  | proof =>
    have failed := Encode.accounted_of_ended (Encode.ended_proofBytes _) (ended_eq_error_iff.mp fails)
    exact .inl ⟨_, by simp, failed⟩
  | publicInputs =>
    have failed := Encode.accounted_of_publicBytes (ended_eq_error_iff.mp fails)
    exact .inl ⟨_, by simp, failed⟩
  | key =>
    have failed := Encode.accounted_of_ended (Encode.ended_keyBytes _) (ended_eq_error_iff.mp fails)
    exact .inl ⟨_, by simp, failed⟩
  | algorithms =>
    rw [Step.run, checkNames] at fails
    split at fails
    · rename_i name found
      have unknown : Algorithm.ofName? name = none := by simpa using List.find?_some found
      exact .inr ⟨name, List.mem_of_find?_eq_some found, unknown, (Except.error.inj fails).symm⟩
    · cases fails

/-- The comparison of a key is in the report when a key is compared. -/
theorem isSome_key {subjects : Subjects} {names : List Value} {report : Report}
    (built : (build subjects names).result = .ok report) : report.key.isSome = subjects.comparesKey := by
  -- A missing side leaves no comparison, and with both sides there is one.
  obtain ⟨_, _, keyBuilt⟩ := result_build_eq_ok_iff.mp built
  rcases buildKey_cases keyBuilt with ⟨missing, absent⟩ | ⟨_, _, _, given, _, _, _, present⟩
  · rw [absent, Subjects.comparesKey_eq_false_iff.mpr missing]
    rfl
  · rw [present, Bool.eq_true_of_not_eq_false (mt Subjects.comparesKey_eq_false_iff.mp given)]
    rfl

/-- A report shows its comparisons in order, that of the key if there is one, and then whether all match. -/
theorem exists_entries (report : Report) :
    ∃ entries, report.document = .object entries ∧
      entries.map Prod.fst = ["proof", "publicSignals"] ++ (if report.key.isSome then ["vk"] else []) ++ ["allMatch"] ∧
      entries.lookup "allMatch" = some (.bool report.allMatch) := by
  obtain ⟨proof, publicInputs, key⟩ := report
  cases key <;> exact ⟨_, rfl, rfl, rfl⟩

end Report

/--
A report is made of all its comparisons or fails as a whole.

It fails exactly as the first of its steps that fails: the proof, the algorithms, the public inputs, and the key when it
is compared. No name stands for the default algorithm. Sizing the layouts by the lengths of the values changes nothing,
since the encoders have looked at these before; so there is no failure of another type than those of the encoders and of
unknown algorithms. When no step fails there is a report, with the comparisons of these artifacts and nothing else but
whether all of them match.
-/
theorem report_fails_first (subjects : Report.Subjects) (names : List String) :
    (∀ algorithms, Report.buildByLength subjects algorithms = Report.build subjects algorithms) ∧
      Report.build subjects [] = Report.build subjects [.text "sha256"] ∧
      (∀ failure, (Report.build subjects (names.map .text)).result = .error failure ↔
        ∃ before step, before ++ [step] <+: Report.steps subjects ∧
          (∀ earlier ∈ before, earlier.run subjects names = .ok ()) ∧ step.run subjects names = .error failure) ∧
      (∀ failure, (Report.build subjects (names.map .text)).result = .error failure →
        ((∃ source ∈ [subjects.proof, subjects.publicInputs, subjects.key], failure.Accounted source) ∨
          ∃ name ∈ names, Algorithm.ofName? name = none ∧ failure = .unsupportedAlgorithm name) ∧
        failure ≠ .missingKey ∧ failure ≠ .wrongType ∧ failure ≠ .noSuchOperation) ∧
      ((∃ report, (Report.build subjects (names.map .text)).result = .ok report) ↔
        ∀ step ∈ Report.steps subjects, step.run subjects names = .ok ()) ∧
      ∀ report, (Report.build subjects (names.map .text)).result = .ok report →
        (∃ entries, report.document = .object entries ∧
          entries.map Prod.fst =
            ["proof", "publicSignals"] ++ (if subjects.comparesKey then ["vk"] else []) ++ ["allMatch"] ∧
          entries.lookup "allMatch" = some (.bool report.allMatch)) ∧
        (report.allMatch = true ↔ subjects.Equal) := by
  have first (failure : Failure) : (Report.build subjects (names.map .text)).result = .error failure ↔
      ∃ before step, before ++ [step] <+: Report.steps subjects ∧
        (∀ earlier ∈ before, earlier.run subjects names = .ok ()) ∧ step.run subjects names = .error failure := by
    rw [← ended_eq_error_iff, Report.ended_build, runInOrder_eq_error_iff]
  refine ⟨Report.buildByLength_eq subjects, rfl, first, fun failure failed => ?_, ?_, fun report built => ⟨?_, ?_⟩⟩
  · obtain ⟨_, step, _, _, fails⟩ := (first failure).mp failed
    have cases := Report.failure_cases fails
    refine ⟨cases, ?_⟩
    -- Neither kind of failure is one of the others.
    rcases cases with ⟨_, _, documented | tooLong⟩ | ⟨_, _, _, rfl⟩ <;> simp
  · rw [← ended_eq_ok_iff, Report.ended_build, runInOrder_eq_ok_iff]
  · rw [← Report.isSome_key built]
    exact report.exists_entries
  · exact Report.allMatch_iff built

/-- A proof that is encoded beside public inputs that are none. -/
def halfSubjects : Report.Subjects :=
  ⟨plainProof, .null, .null, sharedWords.bytes, [], none⟩

/-- An unknown algorithm comes behind a proof that is encoded and before public inputs that are not. -/
theorem report_fails_first_unknown_algorithm :
    (Report.build halfSubjects (["sha256", "md5"].map .text)).result = .error (.unsupportedAlgorithm "md5") := by
  -- The proof passes, and the names are looked up before the public inputs are encoded.
  have encoded := Encode.proofBytes_eq_ok_iff.mpr ⟨sharedWords, plainProof_denotes, rfl⟩
  have passed : Report.Step.proof.run halfSubjects ["sha256", "md5"] = .ok () := ended_eq_ok_iff.mpr ⟨_, encoded⟩
  obtain ⟨_, _, first, _⟩ := report_fails_first halfSubjects ["sha256", "md5"]
  exact (first _).mpr ⟨[.proof], .algorithms, ⟨[.publicInputs], rfl⟩, List.forall_mem_singleton.mpr passed, rfl⟩

end ProofWire
