import ProofWire.Command.Compare
import ProofWire.Proofs.Artifact.PublicRoundTrip
import ProofWire.Proofs.Command.Session
import ProofWire.Proofs.Comparison.Match
import ProofWire.Proofs.Layout.Description
import ProofWire.Proofs.Text.Utf8

/-! The status of the comparison command: when it tells success, and what it passes over without a comparison. -/

namespace ProofWire

namespace Comparison

/-- The lines of digests are written when every name has a digest of the reference. -/
theorem exists_digestLines {reference digests : List (String × String)}
    (named : ∀ entry ∈ digests, (reference.lookup entry.1).isSome = true) :
    ∃ lines, digestLines reference digests = .ok lines := by
  -- Each line takes the digest under the same name, and there is one.
  induction digests with
  | nil => exact ⟨[], rfl⟩
  | cons entry rest ih =>
    obtain ⟨first, later⟩ := List.forall_mem_cons.mp named
    obtain ⟨other, found⟩ := Option.isSome_iff_exists.mp first
    obtain ⟨lines, written⟩ := ih later
    simp only [digestLines, found, written]
    exact ⟨_, rfl⟩

/-- A number with a text is written, and a longer one fails. -/
theorem numberText_natCast (number : Nat) :
    numberText number = if number < Text.decimalBound then .ok (toString number) else .error (.digits none) := by
  -- A number has a text exactly when it lies below the bound.
  unfold numberText
  split
  · rename_i text found
    unfold Text.decimal? at found
    split at found
    · rename_i short
      cases found
      rw [if_pos (by simpa using short)]
      rfl
    · cases found
  · rename_i missing
    rw [if_neg fun short => by cases (Text.decimal?_natCast short).symm.trans missing]

/-- Digests of two contents have the same names. -/
theorem names_digests (first second : Bytes) (algorithms : List Algorithm) :
    (digests first algorithms).map Prod.fst = (digests second algorithms).map Prod.fst := by
  -- The names are those of the algorithms, each at its first place.
  induction algorithms with
  | nil => rfl
  | cons algorithm rest ih =>
    have kept (content : Bytes) : ((digests content rest).filter (·.1 != algorithm.name)).map Prod.fst =
        ((digests content rest).map Prod.fst).filter (· != algorithm.name) := by
      rw [List.filter_map]
      rfl
    rw [digests, digests, List.map_cons, List.map_cons, kept, kept, ih]

/-- The summary of a content is written, unless the length of the reference has no text. -/
theorem summary_cases {ours : Bytes} (reference : Bytes) (layout : List Slot) (algorithms : List Algorithm)
    (name : String) (short : 2 * ours.length + 1 < Text.decimalBound) :
    (∃ text, (ofContents ours reference layout algorithms).summary name = .ok text) ∨
      ((ofContents ours reference layout algorithms).summary name = .error (.digits none) ∧
        Text.decimalBound ≤ reference.length) := by
  have oursShort : ours.length < Text.decimalBound := by omega
  by_cases long : reference.length < Text.decimalBound
  · left
    have named : ∀ entry ∈ digests ours algorithms,
        ((digests reference algorithms).lookup entry.1).isSome = true := by
      intro entry member
      have listed := List.mem_map_of_mem (f := Prod.fst) member
      rw [names_digests ours reference algorithms] at listed
      obtain ⟨other, there, same⟩ := List.mem_map.mp listed
      rw [List.lookup_isSome_iff]
      exact ⟨other, there, beq_iff_eq.mpr same.symm⟩
    obtain ⟨lines, written⟩ := exists_digestLines named
    simp only [summary, ofContents, numberText_natCast, if_pos oursShort, if_pos long, written, Bind.bind,
      Except.bind]
    cases found : firstNibble? ours reference with
    | none => exact ⟨_, rfl⟩
    | some place =>
      -- The contents part within ours or at its end.
      have half := firstNibble?_half ours reference
      rw [found] at half
      have bound : place / 2 ≤ ours.length := firstDifference_le_length half.symm
      have placed : numberText (Int.ofNat place) = .ok (toString place) := by
        rw [Int.ofNat_eq_natCast, numberText_natCast, if_pos (by omega)]
      simp only [Option.map_some, placed]
      exact ⟨_, rfl⟩
  · refine Or.inr ⟨?_, Nat.le_of_not_lt long⟩
    simp only [summary, ofContents, numberText_natCast, if_pos oursShort, if_neg long, Bind.bind, Except.bind]

end Comparison

namespace Report

/-- The bytes that artifacts can be compared with. -/
def Subjects.references (subjects : Subjects) : List Bytes :=
  [subjects.referenceProof, subjects.referencePublic] ++ subjects.referenceKey.toList

/-- No encoding is too long for its length, or a place in its text, to be written. -/
theorem length_lt_decimalBound {content : Bytes} {count : Nat} (few : count < Word.countBound)
    (length : content.length ≤ 452 + 64 * count) : 2 * content.length + 1 < Text.decimalBound := by
  -- The largest row of points makes a length that still fits a word, and any such number has a text.
  have small : 2 * (452 + 64 * Word.countBound) + 1 < Word.fieldBound := by decide
  have limit := Text.fieldBound_le_decimalBound
  omega

/-- A comparison in a report is one of an encoding, which is not too long, with one of the references. -/
theorem contents_of_mem_named {subjects : Subjects} {names : List Value} {report : Report}
    (built : (build subjects names).result = .ok report) {entry : String × Comparison} (member : entry ∈ report.named) :
    ∃ ours, 2 * ours.length + 1 < Text.decimalBound ∧ ∃ reference ∈ subjects.references, ∃ layout algorithms,
      entry.2 = .ofContents ours reference layout algorithms := by
  -- The lengths are those of the three layouts, of which the row of the key is the only one that grows with its count.
  obtain ⟨⟨proof, _, compared⟩, ⟨inputs, _, publicCompared⟩, keyBuilt⟩ := result_build_eq_ok_iff.mp built
  simp only [named, List.cons_append, List.nil_append, List.mem_cons, Option.mem_toList,
    Option.map_eq_some_iff] at member
  rcases member with rfl | rfl | ⟨comparison, present, rfl⟩
  · obtain ⟨algorithms, _, made⟩ := Comparison.ofNames_eq_ok_iff.mp compared
    have length : proof.bytes.length = 256 := proof.words.length_bytes
    have few : 0 < Word.countBound := by decide
    exact ⟨_, length_lt_decimalBound few (by omega), _, by simp [Subjects.references], _, _, made.symm⟩
  · obtain ⟨algorithms, _, made⟩ := Comparison.ofNames_eq_ok_iff.mp publicCompared
    have length := congrArg List.length inputs.bytes_eq_wire
    rw [PublicInputs.length_wire, List.length_map] at length
    refine ⟨_, length_lt_decimalBound inputs.few ?_, _, by simp [Subjects.references], _, _, made.symm⟩
    simp only [length, Word.countSize, Word.fieldSize]
    omega
  · rcases buildKey_cases keyBuilt with ⟨_, absent⟩ | ⟨key, reference, other, _, _, given, compared, found⟩
    · cases absent.symm.trans present
    · cases found.symm.trans present
      obtain ⟨algorithms, _, made⟩ := Comparison.ofNames_eq_ok_iff.mp compared
      have length := congrArg List.length key.bytes_eq_words
      rw [KeyWords.length_bytes, VerificationKey.words, List.length_map] at length
      exact ⟨_, length_lt_decimalBound key.few (by omega), reference, by simp [Subjects.references, given], _, _,
        made.symm⟩

/-- The summary of a report is written when all artifacts match. -/
theorem exists_summary_of_allMatch {subjects : Subjects} {names : List Value} {report : Report}
    (built : (build subjects names).result = .ok report) (allMatch : report.allMatch = true) :
    ∃ text, report.summary = .ok text := by
  have each : ∀ entry ∈ report.named, ∃ text, entry.2.summary entry.1 = .ok text := by
    intro entry member
    obtain ⟨ours, short, reference, _, layout, algorithms, made⟩ := contents_of_mem_named built member
    have same := List.all_eq_true.mp allMatch entry member
    rw [made] at same ⊢
    rcases Comparison.summary_cases reference layout algorithms entry.1 short with written | ⟨_, long⟩
    · exact written
    · -- The reference is as long as the encoding that it equals.
      have equal : ours = reference := beq_iff_eq.mp same
      rw [← equal] at long
      omega
  obtain ⟨parts, written⟩ := exists_mapM_eq_ok each
  exact ⟨_, by simp only [summary, written, Bind.bind, Except.bind]; rfl⟩

/-- The summary of a report is written, unless the length of a reference has no text. -/
theorem long_of_summary {subjects : Subjects} {names : List Value} {report : Report} {failure : Failure}
    (built : (build subjects names).result = .ok report) (failed : report.summary = .error failure) :
    failure = .digits none ∧ ∃ reference ∈ subjects.references, Text.decimalBound ≤ reference.length := by
  -- The first part that is not written is the summary of one comparison.
  rcases bind_eq_error_iff.mp failed with unwritten | ⟨_, _, done⟩
  · obtain ⟨⟨label, comparison⟩, member, refused⟩ := exists_of_mapM_eq_error unwritten
    obtain ⟨ours, short, reference, compared, layout, algorithms, made⟩ := contents_of_mem_named built member
    dsimp only at made refused
    rw [made] at refused
    rcases Comparison.summary_cases reference layout algorithms label short with ⟨_, written⟩ | ⟨unwritten, long⟩
    · cases written.symm.trans refused
    · cases unwritten.symm.trans refused
      exact ⟨rfl, reference, compared, long⟩
  · cases done

end Report

namespace Command

namespace Compare

/-- The settings of the command have to name known algorithms. -/
def checkAlgorithms (settings : Settings) : Except Failure Unit :=
  settings.algorithms.map fun _ => ()

/-- The value of the verification key: null where no path is given. -/
def keyValue (host : Host) (request : Request) : Except Failure Value :=
  match present request.key with
  | some path => host.json path
  | none => .ok .null

/-- The reference of the verification key: none where no path is given. -/
def keyReference (disk : Disk) (request : Request) : Except Failure (Option Bytes) :=
  match present request.referenceKey with
  | some path => (readHex disk (some path)).map some
  | none => .ok none

/-- The files of a request are read in order. -/
theorem read_eq (host : Host) (request : Request) :
    read host request = (do
      let proof ← host.readJson request.proof
      let publicInputs ← host.readJson request.publicInputs
      let referenceProof ← readHex host.disk request.referenceProof
      let referencePublic ← readHex host.disk request.referencePublic
      let key ← keyValue host request
      let referenceKey ← keyReference host.disk request
      return ⟨proof, publicInputs, key, referenceProof, referencePublic, referenceKey⟩) := by
  unfold read keyValue keyReference
  cases present request.key <;> cases present request.referenceKey <;> rfl

/-- The files of a request are read exactly when each of them is. -/
theorem read_eq_ok_iff {host : Host} {request : Request} {subjects : Report.Subjects} :
    read host request = .ok subjects ↔
      host.readJson request.proof = .ok subjects.proof ∧
      host.readJson request.publicInputs = .ok subjects.publicInputs ∧
      readHex host.disk request.referenceProof = .ok subjects.referenceProof ∧
      readHex host.disk request.referencePublic = .ok subjects.referencePublic ∧
      keyValue host request = .ok subjects.key ∧
      keyReference host.disk request = .ok subjects.referenceKey := by
  -- Six files are read in order, and each result is handed on as it is.
  simp only [read_eq, bind_eq_ok_iff, pure, Except.pure, Except.ok.injEq]
  constructor
  · intro ⟨_, proof, _, publicInputs, _, referenceProof, _, referencePublic, _, key, _, referenceKey, same⟩
    subst same
    exact ⟨proof, publicInputs, referenceProof, referencePublic, key, referenceKey⟩
  · intro ⟨proof, publicInputs, referenceProof, referencePublic, key, referenceKey⟩
    exact ⟨_, proof, _, publicInputs, _, referenceProof, _, referencePublic, _, key, _, referenceKey, rfl⟩

/-- A command that ends with a failure does not tell success. -/
theorem status_of_failWith {session : Session} {console : Console} {failure : Failure} {outcome : Outcome}
    (ended : failWith session console failure = .ok outcome) : outcome.status = 1 := by
  unfold failWith at ended
  split at ended <;> cases ended <;> rfl

/-- The name of an algorithm is known. -/
theorem known_of_mem_names {algorithms : List Algorithm} :
    ∀ named ∈ algorithms.map (fun algorithm => Value.text algorithm.name),
      ∃ algorithm, Algorithm.ofValue named = .ok algorithm := by
  intro named member
  obtain ⟨algorithm, _, rfl⟩ := List.mem_map.mp member
  -- There are two algorithms.
  exact ⟨algorithm, by cases algorithm <;> rfl⟩

/-- Once the algorithms are known, the command prints the report that it builds or refuses the artifacts. -/
theorem write_eq {session : Session} {request : Request} {subjects : Report.Subjects}
    {algorithms : List Algorithm} (named : session.settings.algorithms = .ok algorithms) :
    write session request subjects =
      let report := Report.build subjects (algorithms.map fun algorithm => .text algorithm.name)
      let console := session.console.trace report.events
      match report.result with
      | .error failure => failWith session console failure
      | .ok report => do
        let text ← request.print report
        return console.close (if report.allMatch then 0 else 1) text := by
  -- The check of the settings has found the algorithms already.
  rw [write, named]
  rfl

/-- The report about artifacts that equal their references is built and printed with success. -/
theorem write_of_equal {session : Session} (request : Request) {subjects : Report.Subjects}
    {algorithms : List Algorithm} (named : session.settings.algorithms = .ok algorithms)
    (equal : subjects.Equal) :
    ∃ report outcome,
      (Report.build subjects (algorithms.map fun algorithm => .text algorithm.name)).result = .ok report ∧
      report.allMatch = true ∧ request.print report = .ok outcome.output ∧ outcome.status = 0 ∧
      write session request subjects = .ok outcome := by
  -- Equal artifacts are encoded, which is all that building and printing their report takes.
  have keyKnown : subjects.key = .null ∨ subjects.referenceKey = none ∨
      ∃ content, (Encode.keyBytes subjects.key).result = .ok content := by
    rcases equal.key with missing | ⟨reference, _, encoded⟩
    · exact missing.imp_right Or.inl
    · exact Or.inr (Or.inr ⟨reference, encoded⟩)
  obtain ⟨report, built⟩ :=
    Report.exists_build ⟨_, equal.proof⟩ ⟨_, equal.publicInputs⟩ keyKnown known_of_mem_names
  have allMatch := (Report.allMatch_iff built).mpr equal
  have printed : ∃ text, request.print report = .ok text := by
    unfold Request.print
    split
    · exact ⟨_, rfl⟩
    · exact Report.exists_summary_of_allMatch built allMatch
  obtain ⟨text, printed⟩ := printed
  have done : write session request subjects = .ok ((session.console.trace (Report.build subjects
      (algorithms.map fun algorithm => .text algorithm.name)).events).close 0 text) := by
    rw [write_eq named]
    dsimp only
    rw [built]
    simp only [printed, allMatch]
    rfl
  exact ⟨report, _, built, allMatch, printed, rfl, done⟩

/-- The command tells success about artifacts exactly when they equal their references. -/
theorem write_zero_iff {session : Session} {request : Request} {subjects : Report.Subjects}
    {algorithms : List Algorithm} (named : session.settings.algorithms = .ok algorithms) :
    (∃ outcome, write session request subjects = .ok outcome ∧ outcome.status = 0) ↔ subjects.Equal := by
  constructor
  · intro ⟨outcome, done, success⟩
    rw [write_eq named] at done
    dsimp only at done
    split at done
    · -- A refusal leaves another status.
      have failed := status_of_failWith done
      omega
    · rename_i report built
      obtain ⟨text, _, closed⟩ := bind_eq_ok_iff.mp done
      rw [← Except.ok.inj closed] at success
      by_cases allMatch : report.allMatch = true
      · exact (Report.allMatch_iff built).mp allMatch
      · simp [Console.close, allMatch] at success
  · intro equal
    obtain ⟨_, outcome, _, _, _, success, done⟩ := write_of_equal request named equal
    exact ⟨outcome, done, success⟩

/-- A file holds an artifact, and its encoding is what the reference holds in hexadecimal. -/
def Matches (host : Host) (encode : Value → Traced Bytes) (artifact reference : Option String) : Prop :=
  ∃ value content, host.readJson artifact = .ok value ∧ readHex host.disk reference = .ok content ∧
    (encode value).result = .ok content

/-- The files of the verification key are read, and it matches unless its value is null or its reference has no
path. -/
def KeyPasses (host : Host) (request : Request) : Prop :=
  ∃ key reference, keyValue host request = .ok key ∧ keyReference host.disk request = .ok reference ∧
    ((key = .null ∨ reference = none) ∨
      ∃ content, reference = some content ∧ (Encode.keyBytes key).result = .ok content)

/-- The artifacts that are read equal their references exactly when each of the files passes. -/
theorem exists_equal_iff {host : Host} {request : Request} :
    (∃ subjects, read host request = .ok subjects ∧ subjects.Equal) ↔
      Matches host Encode.proofBytes request.proof request.referenceProof ∧
      Matches host Encode.publicBytes request.publicInputs request.referencePublic ∧
      KeyPasses host request := by
  -- Both sides read the same six files; what is equal is stated of each by itself.
  constructor
  · intro ⟨subjects, done, equal⟩
    obtain ⟨proof, publicInputs, referenceProof, referencePublic, key, referenceKey⟩ := read_eq_ok_iff.mp done
    exact ⟨⟨_, _, proof, referenceProof, equal.proof⟩,
      ⟨_, _, publicInputs, referencePublic, equal.publicInputs⟩, ⟨_, _, key, referenceKey, equal.key⟩⟩
  · intro ⟨proofMatches, publicMatches, keyPasses⟩
    obtain ⟨proof, referenceProof, proofRead, proofGiven, proofEqual⟩ := proofMatches
    obtain ⟨inputs, referencePublic, publicRead, publicGiven, publicEqual⟩ := publicMatches
    obtain ⟨key, referenceKey, keyRead, keyGiven, keyEqual⟩ := keyPasses
    have done : read host request =
        .ok ⟨proof, inputs, key, referenceProof, referencePublic, referenceKey⟩ :=
      read_eq_ok_iff.mpr ⟨proofRead, publicRead, proofGiven, publicGiven, keyRead, keyGiven⟩
    exact ⟨_, done, ⟨proofEqual, publicEqual, keyEqual⟩⟩

/-- The settings of a session that starts name known algorithms. -/
theorem exists_algorithms_of_starts {host : Host} {session : Session}
    (starts : Session.Starts host checkAlgorithms session) :
    ∃ algorithms, session.settings.algorithms = .ok algorithms := by
  -- The check would have failed with any other.
  obtain ⟨setup, planned, _⟩ := starts
  obtain ⟨settings, _, later⟩ := bind_eq_ok_iff.mp planned
  obtain ⟨_, checked, later⟩ := bind_eq_ok_iff.mp later
  obtain ⟨_, _, kept⟩ := bind_eq_ok_iff.mp later
  cases kept
  cases known : session.settings.algorithms with
  | ok algorithms => exact ⟨algorithms, rfl⟩
  | error failure =>
    rw [checkAlgorithms, known] at checked
    cases checked

/-- In a session that starts, the command reads its files and goes on with what they hold. -/
theorem run_of_starts {host : Host} {texts : List String} {request : Request} {session : Session}
    (asked : Request.ofTexts host.edition texts = .ok request)
    (starts : Session.Starts host checkAlgorithms session) :
    run host texts =
      match read host request with
      | .ok subjects => write session request subjects
      | .error failure => failWith session session.console failure := by
  -- The command line is read first, then the session is set up.
  simp only [run, asked]
  exact Session.run_of_starts starts

/-- In a session that starts, the command tells success exactly when what it reads equals its references. -/
theorem run_zero_iff {host : Host} {texts : List String} {request : Request} {session : Session}
    (asked : Request.ofTexts host.edition texts = .ok request)
    (starts : Session.Starts host checkAlgorithms session) :
    (∃ outcome, run host texts = .ok outcome ∧ outcome.status = 0) ↔
      ∃ subjects, read host request = .ok subjects ∧ subjects.Equal := by
  -- Once the session has started, what the command tells is decided by reading and by writing.
  obtain ⟨algorithms, named⟩ := exists_algorithms_of_starts starts
  rw [run_of_starts asked starts]
  cases done : read host request with
  | error failure =>
    constructor
    · intro ⟨outcome, ended, success⟩
      -- A file that is not read leaves another status.
      have failed := status_of_failWith ended
      omega
    · intro ⟨subjects, other, _⟩
      cases other
  | ok subjects =>
    simp only [write_zero_iff named, Except.ok.injEq, exists_eq_left']

/--
The status of the comparison tells success exactly when the files pass.

The proof and the public inputs are read, to the depth of the host, and encoded as the bytes of their references. So is
the verification key, unless its file holds null or one of its two options has no text: then nothing is compared, and
the status is that of the rest. An option has none when it is left out, when its text is empty, or when an edition of
command lines drops the one that it has.
-/
theorem compare_status_zero_iff {host : Host} {texts : List String} {request : Request} {session : Session}
    (asked : Request.ofTexts host.edition texts = .ok request)
    (starts : Session.Starts host checkAlgorithms session) :
    (∃ outcome, run host texts = .ok outcome ∧ outcome.status = 0) ↔
      Matches host Encode.proofBytes request.proof request.referenceProof ∧
      Matches host Encode.publicBytes request.publicInputs request.referencePublic ∧
      KeyPasses host request := by
  -- What is read equals its references exactly when each file passes.
  rw [run_zero_iff asked starts, exists_equal_iff]

/-- A file whose text spells bytes is read as a reference of these bytes. -/
theorem readHex_of_spells {disk : Disk} {path : String} {text : List Char} {content held : Bytes}
    (bytes : disk.bytes (Path.normal path) = .ok held) (decoded : Text.decodeUtf8 held = .ok text)
    (spelled : Text.Spells (String.ofList text) content) : readHex disk (some path) = .ok content := by
  -- Line ends are unified first, and they are blanks wherever they stand.
  have read : disk.text (Path.normal path) = .ok (Text.unifyNewlines text) := by
    simp only [Disk.text, bytes, Bind.bind, Except.bind, decoded]
    rfl
  have body := Decode.hexText_of_spells (Text.spells_unifyNewlines spelled)
  simp only [readHex, required, Bind.bind, Except.bind, read, body]

/-- A file with the digits of bytes is read as a reference of these bytes. -/
theorem readHex_of_hexText {disk : Disk} {path : String} {content : Bytes}
    (held : disk.bytes (Path.normal path) = .ok (Text.asciiBytes (Text.hexOfBytes content))) :
    readHex disk (some path) = .ok content :=
  readHex_of_spells held (Text.decodeUtf8_ascii (Text.ascii_of_cased (Text.toLower_hexOfBytes content)))
    (Text.spells_hexText content)

/-- The numbers of a proof whose points lie at infinity. -/
def infinityWords : ProofWords :=
  ⟨⟨0, 0⟩, ⟨0, 0, 0, 0⟩, ⟨0, 0⟩⟩

/-- A proof whose points lie at infinity. -/
def infinityProof : Value :=
  .object [
    ("pi_a", .list [.int 0, .int 0, .int 0]),
    ("pi_b", .list [.list [.int 0, .int 0], .list [.int 0, .int 0], .list [.int 0, .int 0]]),
    ("pi_c", .list [.int 0, .int 0, .int 0])]

/-- The points at infinity have zeros for their numbers. -/
theorem infinityProof_denotes : Proof.Denotes infinityProof infinityWords where
  -- All scales are zero.
  a := ⟨_, ⟨_, rfl, rfl⟩, .infinity rfl rfl⟩
  b := ⟨_, ⟨_, rfl, rfl⟩, .infinity rfl rfl rfl rfl rfl rfl⟩
  c := ⟨_, ⟨_, rfl, rfl⟩, .infinity rfl rfl⟩

/-- A host of files without settings. -/
def hostOfFiles (files : List (String × Bytes)) : Host :=
  .still (.ofFiles files) none 990 default

/-- Files of a proof, of no public inputs and of their references; the file of the verification key holds null. -/
def nullKeyHost : Host :=
  hostOfFiles [
    ("p.json", Text.asciiBytes
      "\x7b\"pi_a\":[0,0,0],\"pi_b\":[[0,0],[0,0],[0,0]],\"pi_c\":[0,0,0]\x7d".toList),
    ("u.json", Text.asciiBytes "[]".toList),
    ("p.hex", Text.asciiBytes (Text.hexOfBytes infinityWords.bytes)),
    ("u.hex", Text.asciiBytes (Text.hexOfBytes (PublicInputs.wire []))),
    ("v.json", Text.asciiBytes "null".toList),
    ("v.hex", Text.asciiBytes (Text.hexOfBytes [0]))]

/-- A request for the files of the disk, with the given files for a verification key and its reference. -/
def requestWith (key referenceKey : Option String) : Request where
  proof := some "p.json"
  publicInputs := some "u.json"
  referenceProof := some "p.hex"
  referencePublic := some "u.hex"
  key := key
  referenceKey := referenceKey
  asJson := false

/-- The options for a proof, public inputs and their references. -/
def requiredTexts : List String :=
  ["--proof", "p.json", "--public", "u.json", "--ref-proof", "p.hex", "--ref-public", "u.hex"]

/-- The options for a verification key and its reference. -/
def keyTexts : List String :=
  ["--vkey", "v.json", "--ref-vk", "v.hex"]

/-- Without settings of its own the command starts its session. -/
theorem exists_starts (files : List (String × Bytes)) :
    ∃ session, Session.Starts (hostOfFiles files) checkAlgorithms session :=
  ⟨⟨_, _, _⟩, _, rfl, rfl⟩

/-- The proof of the disk matches. -/
theorem nullKeyHost_proof : Matches nullKeyHost Encode.proofBytes (some "p.json") (some "p.hex") :=
  ⟨infinityProof, infinityWords.bytes, rfl, readHex_of_hexText rfl,
    Encode.proofBytes_eq_ok_iff.mpr ⟨infinityWords, infinityProof_denotes, rfl⟩⟩

/-- The public inputs of the disk match. -/
theorem nullKeyHost_public : Matches nullKeyHost Encode.publicBytes (some "u.json") (some "u.hex") :=
  ⟨.list [], PublicInputs.wire [], rfl, readHex_of_hexText rfl,
    Encode.publicBytes_eq_ok_iff.mpr ⟨[], .signals rfl .nil (by decide), rfl⟩⟩

/-- Without a verification key, a matching proof with matching public inputs is a success. -/
theorem compare_status_zero_iff_without_key :
    ∃ outcome, run nullKeyHost requiredTexts = .ok outcome ∧ outcome.status = 0 := by
  -- A key that is not asked for passes.
  have asked : Request.ofTexts nullKeyHost.edition requiredTexts = .ok (requestWith none none) := rfl
  obtain ⟨session, starts⟩ := exists_starts _
  have passes : KeyPasses nullKeyHost (requestWith none none) :=
    ⟨.null, none, rfl, rfl, Or.inl (Or.inl rfl)⟩
  exact (compare_status_zero_iff asked starts).mpr ⟨nullKeyHost_proof, nullKeyHost_public, passes⟩

/-- With null for a verification key the command tells success, although null is no key of the reference. -/
theorem compare_success_with_null_key :
    (∃ outcome, run nullKeyHost (requiredTexts ++ keyTexts) = .ok outcome ∧ outcome.status = 0) ∧
      ¬ Matches nullKeyHost Encode.keyBytes (some "v.json") (some "v.hex") := by
  have asked : Request.ofTexts nullKeyHost.edition (requiredTexts ++ keyTexts) =
      .ok (requestWith (some "v.json") (some "v.hex")) := rfl
  obtain ⟨session, starts⟩ := exists_starts _
  have null : nullKeyHost.json "v.json" = .ok .null := rfl
  have reference : readHex nullKeyHost.disk (some "v.hex") = .ok [0] := readHex_of_hexText rfl
  constructor
  · have given : keyReference nullKeyHost.disk (requestWith (some "v.json") (some "v.hex")) = .ok (some [0]) := by
      show (readHex nullKeyHost.disk (some "v.hex")).map some = _
      rw [reference]
      rfl
    rw [run_zero_iff asked starts, exists_equal_iff]
    exact ⟨nullKeyHost_proof, nullKeyHost_public, .null, some [0], null, given, Or.inl (Or.inl rfl)⟩
  · intro ⟨value, content, read, _, encoded⟩
    -- A key is an object, and null is none.
    have same : value = .null := Except.ok.inj (read.symm.trans null)
    rw [same] at encoded
    obtain ⟨words, denoted, _⟩ := Encode.keyBytes_eq_ok_iff.mp encoded
    obtain ⟨point, ⟨entries, object, _⟩, _⟩ := denoted.alpha
    cases object

end Compare

end Command

end ProofWire
