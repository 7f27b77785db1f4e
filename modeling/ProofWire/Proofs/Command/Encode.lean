import ProofWire.Command.Encode
import ProofWire.Proofs.Artifact.InfinityLog
import ProofWire.Proofs.Command.Session

/-! The encode command: what it prints is the encoding of what its input holds. -/

namespace ProofWire.Command.Encode

/-- The encoder of the bytes of an artifact. -/
def Mode.bytes (mode : Mode) (source : Value) : Traced Bytes :=
  match mode with
  | .proof => ProofWire.Encode.proofBytes source
  | .publicInputs => ProofWire.Encode.publicBytes source
  | .key => ProofWire.Encode.keyBytes source

/-- Reports aside, the text of an artifact is that of its bytes. -/
theorem Mode.result_encode (mode : Mode) (source : Value) :
    (mode.encode source).result = ProofWire.Encode.hexText <$> (mode.bytes source).result := by
  -- A report between the bytes and their text never fails.
  cases mode with
  | proof => exact ProofWire.Encode.result_sized _ _
  | publicInputs => exact ProofWire.Encode.result_publicInputs source
  | key => exact ProofWire.Encode.result_sized _ _

/-- An artifact has a text exactly when it has bytes. -/
theorem Mode.result_encode_eq_ok_iff {mode : Mode} {source : Value} {text : String} :
    (mode.encode source).result = .ok text ↔
      ∃ content, (mode.bytes source).result = .ok content ∧ ProofWire.Encode.hexText content = text := by
  rw [result_encode]
  cases (mode.bytes source).result <;> simp [Functor.map, Except.map]

/-- An artifact is refused by its text as by its bytes. -/
theorem Mode.result_encode_eq_error_iff {mode : Mode} {source : Value} {failure : Failure} :
    (mode.encode source).result = .error failure ↔ (mode.bytes source).result = .error failure := by
  rw [result_encode]
  cases (mode.bytes source).result <;> simp [Functor.map, Except.map]

/-- Where the command succeeds, it prints the encoding of the value in its input file. -/
theorem output_of_success {host : Host} {texts : List String} {request : Request} {outcome : Outcome}
    (asked : Request.ofTexts host.edition texts = .ok request) (done : run host texts = .ok outcome)
    (success : outcome.status = 0) :
    ∃ source content, host.readJson request.input = .ok source ∧
      (request.mode.bytes source).result = .ok content ∧
      outcome.output = ProofWire.Encode.hexText content := by
  simp only [run, asked] at done
  obtain ⟨session, _, ended⟩ := Session.exists_starts_of_success done success
  cases read : host.readJson request.input with
  | error failure =>
    -- An input that is not read leaves another status, if it leaves one.
    simp only [read] at ended
    unfold failRead at ended
    split at ended
    all_goals cases ended
    all_goals cases success
  | ok source =>
    simp only [read] at ended
    unfold write at ended
    dsimp only at ended
    split at ended
    · rename_i text encoded
      obtain ⟨content, written, shown⟩ := Mode.result_encode_eq_ok_iff.mp encoded
      cases ended
      exact ⟨source, content, rfl, written, shown.symm⟩
    · cases ended
      cases success
    · cases ended

end ProofWire.Command.Encode
