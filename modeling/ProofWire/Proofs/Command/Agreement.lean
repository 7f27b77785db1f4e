import ProofWire.Proofs.Command.Compare
import ProofWire.Proofs.Command.Encode

/-! Agreement of the two commands: what the one prints is a reference that the other finds to match. -/

namespace ProofWire

/-- Text that was stored in some spelling: its digits in any case, after a mark or none, with blanks around them. -/
inductive Text.Respells (stored : List Char) (printed : String) : Prop where
  | padded (front mark digits back : List Char) (laid : stored = front ++ (mark ++ digits) ++ back)
    (frontBlank : ∀ c ∈ front, isBlank c = true) (backBlank : ∀ c ∈ back, isBlank c = true)
    (marked : mark ∈ marks) (cased : digits.map Char.toLower = printed.toList)

/-- A file stores a printed text in some spelling. -/
def Disk.Stores (disk : Disk) (path printed : String) : Prop :=
  ∃ content text, disk.bytes (Path.normal path) = .ok content ∧ Text.decodeUtf8 content = .ok text ∧
    Text.Respells text printed

/-- A printed text is stored as ASCII text in any of its spellings. -/
theorem Disk.stores_of_ascii {disk : Disk} {path : String} {content : Bytes} (front mark digits back : List Char)
    (held : disk.bytes (Path.normal path) = .ok (Text.asciiBytes (front ++ (mark ++ digits) ++ back)))
    (frontBlank : ∀ c ∈ front, Text.isBlank c = true ∧ c.toNat < 0x80)
    (backBlank : ∀ c ∈ back, Text.isBlank c = true ∧ c.toNat < 0x80) (marked : mark ∈ Text.marks)
    (cased : digits.map Char.toLower = Text.hexOfBytes content) :
    disk.Stores path (Encode.hexText content) := by
  -- Marks, blanks and digits are ASCII, so that the bytes of the file are its characters.
  have markAscii : ∀ mark ∈ Text.marks, ∀ c ∈ mark, c.toNat < 0x80 := by
    simp only [Text.marks, List.forall_mem_cons, List.not_mem_nil, false_implies, implies_true, and_true, true_and]
    decide
  have ascii : ∀ c ∈ front ++ (mark ++ digits) ++ back, c.toNat < 0x80 := by
    simp only [List.forall_mem_append]
    exact ⟨⟨fun c member => (frontBlank c member).2, markAscii mark marked, Text.ascii_of_cased cased⟩,
      fun c member => (backBlank c member).2⟩
  refine ⟨_, _, held, Text.decodeUtf8_ascii ascii, .padded front mark digits back rfl
    (fun c member => (frontBlank c member).1) (fun c member => (backBlank c member).1) marked ?_⟩
  rw [cased, Encode.hexText, String.toList_ofList]

/-- A comparison finds an artifact and the reference that was printed for it alike in every respect. -/
structure Comparison.Agrees (comparison : Comparison) (algorithms : List Algorithm) (printed : String) : Prop where
  sameBytes : comparison.sameBytes = true
  oursLength : 2 * comparison.oursLength = printed.length
  referenceLength : comparison.referenceLength = comparison.oursLength
  digests : comparison.referenceDigests = comparison.oursDigests
  digested : ∀ algorithm ∈ algorithms, ∃ digest, (algorithm.name, digest) ∈ comparison.oursDigests
  noNibble : comparison.firstNibble = none
  noField : comparison.firstField = none

/-- Each algorithm has its digest. -/
theorem Comparison.mem_digests {content : Bytes} {algorithms : List Algorithm} {algorithm : Algorithm}
    (member : algorithm ∈ algorithms) :
    (algorithm.name, algorithm.hexDigest content) ∈ digests content algorithms := by
  -- A digest is left out only where the same algorithm comes before.
  have injective : ∀ other : Algorithm, algorithm.name = other.name → algorithm = other := by
    intro other same
    have known := algorithm.ofName?_name
    rw [same, other.ofName?_name] at known
    exact (Option.some.inj known).symm
  induction algorithms with
  | nil => cases member
  | cons first rest ih =>
    by_cases same : algorithm.name = first.name
    · rw [injective first same]
      exact List.mem_cons_self
    · have behind : algorithm ∈ rest := by
        rcases List.mem_cons.mp member with rfl | later
        · exact absurd rfl same
        · exact later
      refine List.mem_cons_of_mem _ (List.mem_filter.mpr ⟨ih behind, ?_⟩)
      exact bne_iff_ne.mpr same

/-- Bytes are printed with two digits each. -/
theorem Encode.length_hexText (content : Bytes) : (hexText content).length = 2 * content.length := by
  rw [hexText, String.length_ofList, Text.length_hexOfBytes]

/-- Contents agree with their own text. -/
theorem Comparison.agrees_ofContents (content : Bytes) (layout : List Slot) (algorithms : List Algorithm) :
    (ofContents content content layout algorithms).Agrees algorithms (Encode.hexText content) where
  -- Equal contents have equal digests and no place at which they part.
  sameBytes := beq_self_eq_true content
  oursLength := by
    rw [Encode.length_hexText]
    exact (Nat.cast_mul 2 content.length).symm
  referenceLength := rfl
  digests := rfl
  digested := fun algorithm member => ⟨_, mem_digests member⟩
  noNibble := by simp only [ofContents, firstNibble?_self, Option.map_none]
  noField := by simp only [ofContents, firstNibble?_self, Option.bind_none]

/-- The algorithms of a report: the default one where none is named. -/
def Algorithm.orDefault (algorithms : List Algorithm) : List Algorithm :=
  if algorithms.isEmpty then [.sha256] else algorithms

/-- The names of algorithms lead back to them. -/
theorem Algorithm.mapM_ofValue (algorithms : List Algorithm) :
    (Report.algorithmsOr (algorithms.map fun algorithm => .text algorithm.name)).mapM ofValue =
      .ok (orDefault algorithms) := by
  -- An empty row of names stands for the default algorithm; else each name is looked up by itself.
  have known : ∀ algorithm : Algorithm, ofValue (.text algorithm.name) = .ok algorithm := by
    intro algorithm
    cases algorithm <;> rfl
  have each : ∀ algorithms : List Algorithm,
      (algorithms.map fun algorithm => Value.text algorithm.name).mapM ofValue = .ok algorithms := by
    intro algorithms
    induction algorithms with
    | nil => rfl
    | cons first rest ih =>
      rw [List.map_cons, List.mapM_cons, known, ih]
      rfl
  cases algorithms with
  | nil => exact each [.sha256]
  | cons first rest => exact each (first :: rest)

/-- A comparison of equal bytes under the names of algorithms agrees with their text. -/
theorem Comparison.agrees_of_same {ours reference : Bytes} {layout : List Slot} {algorithms : List Algorithm}
    {comparison : Comparison} (same : ours = reference)
    (made : ofNames ours reference layout
      (Report.algorithmsOr (algorithms.map fun algorithm => .text algorithm.name)) = .ok comparison) :
    comparison.Agrees (Algorithm.orDefault algorithms) (Encode.hexText reference) := by
  -- The names are resolved to the algorithms that they came from.
  obtain ⟨resolved, found, rfl⟩ := ofNames_eq_ok_iff.mp made
  cases (Algorithm.mapM_ofValue algorithms).symm.trans found
  rw [same]
  exact agrees_ofContents reference layout _

/-- A report finds every artifact and its printed reference alike; a key is compared where one was printed. -/
structure Report.Agrees (report : Report) (algorithms : List Algorithm) (printedProof printedPublic : String)
    (printedKey : Option String) : Prop where
  proof : report.proof.Agrees algorithms printedProof
  publicInputs : report.publicInputs.Agrees algorithms printedPublic
  key : ∀ printed, printedKey = some printed →
    ∃ comparison, report.key = some comparison ∧ comparison.Agrees algorithms printed
  noKey : printedKey = none → report.key = none
  allMatch : report.allMatch = true

/-- The report about artifacts that equal their references agrees with the texts of the references. -/
theorem Report.agrees_of_built {subjects : Subjects} {algorithms : List Algorithm} {report : Report}
    (built : (build subjects (algorithms.map fun algorithm => .text algorithm.name)).result = .ok report)
    (equal : subjects.Equal) (whole : subjects.referenceKey = none ∨ subjects.key ≠ .null) :
    report.Agrees (Algorithm.orDefault algorithms) (Encode.hexText subjects.referenceProof)
      (Encode.hexText subjects.referencePublic) (subjects.referenceKey.map Encode.hexText) := by
  have allMatch := (allMatch_iff built).mpr equal
  obtain ⟨_, _, keySame⟩ := (allMatch_eq_true_iff report).mp allMatch
  obtain ⟨⟨proof, read, compared⟩, ⟨inputs, given, publicCompared⟩, keyBuilt⟩ := result_build_eq_ok_iff.mp built
  refine ⟨Comparison.agrees_of_same ?_ compared, Comparison.agrees_of_same ?_ publicCompared, ?_, ?_, allMatch⟩
  · exact Except.ok.inj ((proofBytes_of_read read).symm.trans equal.proof)
  · exact Except.ok.inj ((publicBytes_of_read given).symm.trans equal.publicInputs)
  · -- A key with a reference is compared, for it is not null.
    intro printed shown
    obtain ⟨reference, found, rfl⟩ := Option.map_eq_some_iff.mp shown
    rcases buildKey_cases keyBuilt with ⟨missing, _⟩ | ⟨key, other, comparison, _, _, present, made, kept⟩
    · have present : subjects.referenceKey ≠ none := by simp [found]
      exact absurd missing (not_or.mpr ⟨whole.resolve_left present, present⟩)
    · cases found.symm.trans present
      have same := (Comparison.sameBytes_iff made).mp (keySame comparison kept)
      exact ⟨comparison, kept, Comparison.agrees_of_same same made⟩
  · intro shown
    have missing := Option.map_eq_none_iff.mp shown
    rcases buildKey_cases keyBuilt with ⟨_, absent⟩ | ⟨_, _, _, given, _⟩
    · exact absent
    · exact absurd (Or.inr missing) given

namespace Command

/--
An artifact was encoded, and what was printed is stored as its reference.

The encode command succeeds on the file of the artifact. Later on the file still gives the same value, and the file of
the reference stores the printed text in some spelling.
-/
inductive Recorded (before after : Host) (mode : Encode.Mode) : Option String → Option String → String → Prop where
  | stored {texts : List String} {path reference : String} {outcome : Outcome}
    (asked : Encode.Request.ofTexts before.edition texts = .ok ⟨mode, some path⟩)
    (done : Encode.run before texts = .ok outcome) (success : outcome.status = 0)
    (kept : after.json path = before.json path) (held : after.disk.Stores reference outcome.output) :
    Recorded before after mode (some path) (some reference) outcome.output

/-- A verification key is recorded in files with names, or neither it nor its reference is given. -/
inductive KeyRecorded (before after : Host) (request : Compare.Request) : Option String → Prop where
  | absent (noKey : request.key = none) (noReference : request.referenceKey = none) :
    KeyRecorded before after request none
  | stored {printed : String} (recorded : Recorded before after .key request.key request.referenceKey printed)
    (keyNamed : request.key ≠ some "") (referenceNamed : request.referenceKey ≠ some "") :
    KeyRecorded before after request (some printed)

/-- Any spelling of a printed text spells the bytes that were printed. -/
theorem Recorded.spells {stored : List Char} {content : Bytes}
    (respelled : Text.Respells stored (ProofWire.Encode.hexText content)) :
    Text.Spells (String.ofList stored) content := by
  -- The digits of the printed text are the ones that any spelling of it shows in small letters.
  obtain ⟨front, mark, digits, back, laid, frontBlank, backBlank, marked, cased⟩ := respelled
  rw [ProofWire.Encode.hexText, String.toList_ofList] at cased
  exact .padded front mark digits back (by rw [String.toList_ofList, laid]) frontBlank backBlank marked cased

/-- A recorded artifact and its reference are read as a value and the bytes that encode it. -/
theorem Recorded.reads {before after : Host} {mode : Encode.Mode} {artifact reference : Option String}
    {printed : String} (recorded : Recorded before after mode artifact reference printed) :
    ∃ source content, after.readJson artifact = .ok source ∧ Compare.readHex after.disk reference = .ok content ∧
      (mode.bytes source).result = .ok content ∧ printed = ProofWire.Encode.hexText content := by
  -- The artifact is kept, and the reference spells what the command printed for it.
  obtain ⟨asked, done, success, kept, held⟩ := recorded
  rename_i texts path reference outcome
  obtain ⟨source, content, read, encoded, printed⟩ := Encode.output_of_success asked done success
  obtain ⟨bytes, text, stored, decoded, respelled⟩ := held
  rw [printed] at respelled
  have again : after.readJson (some path) = before.readJson (some path) := kept
  exact ⟨source, content, again.trans read,
    Compare.readHex_of_spells stored decoded (Recorded.spells respelled), encoded, printed⟩

/-- A path that is given and not empty is present. -/
theorem Compare.present_of_ne {path : Option String} (named : path ≠ some "") : Compare.present path = path := by
  -- Only an empty path is dropped.
  cases path with
  | none => rfl
  | some path =>
    have nonempty : path ≠ "" := fun empty => named (by rw [empty])
    simp [Compare.present, Option.filter, nonempty]

/-- A recorded key is read together with its reference; without a record neither of them is. -/
theorem KeyRecorded.reads {before after : Host} {request : Compare.Request} {printed : Option String}
    (recorded : KeyRecorded before after request printed) :
    ∃ source content, Compare.keyValue after request = .ok source ∧
      Compare.keyReference after.disk request = .ok content ∧
      ((source = .null ∨ content = none) ∨
        ∃ bytes, content = some bytes ∧ (ProofWire.Encode.keyBytes source).result = .ok bytes) ∧
      (content = none ∨ source ≠ .null) ∧ printed = content.map ProofWire.Encode.hexText := by
  cases recorded with
  | absent noKey noReference =>
    have key : Compare.keyValue after request = .ok .null := by rw [Compare.keyValue, noKey]; rfl
    have reference : Compare.keyReference after.disk request = .ok none := by
      rw [Compare.keyReference, noReference]
      rfl
    exact ⟨.null, none, key, reference, Or.inl (Or.inr rfl), Or.inl rfl, rfl⟩
  | stored recorded keyNamed referenceNamed =>
    obtain ⟨source, content, read, stored, encoded, printed⟩ := recorded.reads
    have key : Compare.keyValue after request = .ok source := by
      rw [Compare.keyValue, Compare.present_of_ne keyNamed]
      cases given : request.key with
      | none => rw [given] at read; cases read
      | some path => rw [given] at read; exact read
    have reference : Compare.keyReference after.disk request = .ok (some content) := by
      rw [Compare.keyReference, Compare.present_of_ne referenceNamed]
      cases given : request.referenceKey with
      | none => rw [given] at stored; cases stored
      | some path => rw [given] at stored; simp only [stored]; rfl
    -- Null is not encoded.
    have present : source ≠ .null := by
      intro null
      rw [null] at encoded
      cases encoded
    exact ⟨source, some content, key, reference, Or.inr ⟨content, rfl, encoded⟩, Or.inr present,
      congrArg some printed⟩

/--
The two commands agree.

Let the encode command succeed on a proof, on public inputs and, if one likes, on a verification key, and let the
printed texts be stored as references: in letters of either case, after a mark or none, and with any blanks and line
ends around them. Where its settings are accepted, the compare command then succeeds on the same files and these
references. The report that it prints finds each artifact and its reference alike: the same bytes of the same length
with the same digest for each configured algorithm, and no first difference.
-/
theorem printed_references_agree {before after : Host} {texts : List String} {request : Compare.Request}
    {session : Session} {printedProof printedPublic : String} {printedKey : Option String}
    (asked : Compare.Request.ofTexts after.edition texts = .ok request)
    (starts : Session.Starts after Compare.checkAlgorithms session)
    (proof : Recorded before after .proof request.proof request.referenceProof printedProof)
    (publicInputs : Recorded before after .publicInputs request.publicInputs request.referencePublic printedPublic)
    (key : KeyRecorded before after request printedKey) :
    ∃ algorithms outcome report, session.settings.algorithms = .ok algorithms ∧
      Compare.run after texts = .ok outcome ∧ outcome.status = 0 ∧
      request.print report = .ok outcome.output ∧
      report.Agrees (Algorithm.orDefault algorithms) printedProof printedPublic printedKey := by
  obtain ⟨algorithms, named⟩ := Compare.exists_algorithms_of_starts starts
  obtain ⟨proofSource, proofContent, proofRead, proofStored, proofEncoded, rfl⟩ := proof.reads
  obtain ⟨publicSource, publicContent, publicRead, publicStored, publicEncoded, rfl⟩ := publicInputs.reads
  obtain ⟨keySource, keyContent, keyRead, keyStored, keyEqual, whole, rfl⟩ := key.reads
  -- What is read are the encoded values beside the bytes that were printed.
  have read : Compare.read after request =
      .ok ⟨proofSource, publicSource, keySource, proofContent, publicContent, keyContent⟩ :=
    Compare.read_eq_ok_iff.mpr ⟨proofRead, publicRead, proofStored, publicStored, keyRead, keyStored⟩
  have equal : Report.Subjects.Equal
      ⟨proofSource, publicSource, keySource, proofContent, publicContent, keyContent⟩ :=
    ⟨proofEncoded, publicEncoded, keyEqual⟩
  obtain ⟨report, outcome, built, _, printed, success, done⟩ :=
    Compare.write_of_equal request named equal
  refine ⟨algorithms, outcome, report, named, ?_, success, printed, Report.agrees_of_built built equal whole⟩
  rw [Compare.run_of_starts asked starts, read]
  exact done

namespace Agreement

/-- The text of a file with a proof at infinity. -/
def proofText : String :=
  "\x7b\"pi_a\":[0,0,0],\"pi_b\":[[0,0],[0,0],[0,0]],\"pi_c\":[0,0,0]\x7d"

/-- Files of a proof and of one public input. -/
def artifacts : List (String × Bytes) := [
  ("p.json", Text.asciiBytes proofText.toList), ("u.json", Text.asciiBytes "[171]".toList)]

/-- The digits that are printed for the proof. -/
def proofDigits : List Char :=
  Text.hexOfBytes Compare.infinityWords.bytes

/-- The digits that are printed for the public input. -/
def publicDigits : List Char :=
  Text.hexOfBytes (PublicInputs.wire [171])

/-- The printed texts as they were stored: behind line ends and a mark, and in capital letters before a line end. -/
def references : List (String × Bytes) := [
  ("p.hex", Text.asciiBytes (['\r', '\n'] ++ (['0', 'X'] ++ proofDigits) ++ [])),
  ("u.hex", Text.asciiBytes ([] ++ ([] ++ publicDigits.map Char.toUpper) ++ ['\n']))]

/-- The host on which the two artifacts are encoded. -/
def writer : Host :=
  Compare.hostOfFiles artifacts

/-- The host on which they are compared with the references. -/
def reader : Host :=
  Compare.hostOfFiles (artifacts ++ references)

/-- The proof is printed. -/
theorem proof_printed : Encode.run writer ["proof", "p.json"] = .ok ⟨0, String.ofList proofDigits, ""⟩ := by
  rfl

/-- The public input is printed. -/
theorem public_printed : Encode.run writer ["public", "u.json"] = .ok ⟨0, String.ofList publicDigits, ""⟩ := by
  rfl

/-- The proof is stored behind line ends and a mark. -/
theorem proof_stored : reader.disk.Stores "p.hex" (String.ofList proofDigits) :=
  -- The blanks are in front, the mark has a capital letter, and the digits are the printed ones.
  Disk.stores_of_ascii ['\r', '\n'] ['0', 'X'] proofDigits [] rfl
    (List.forall_mem_cons.mpr ⟨by decide, List.forall_mem_singleton.mpr (by decide)⟩) (List.forall_mem_nil _)
    (by decide)
    (Text.toLower_hexOfBytes _)

/-- The public input is stored in capital letters before a line end. -/
theorem public_stored : reader.disk.Stores "u.hex" (String.ofList publicDigits) :=
  -- No digit is changed by making it large and small again.
  Disk.stores_of_ascii [] [] (publicDigits.map Char.toUpper) ['\n'] rfl (List.forall_mem_nil _)
    (List.forall_mem_singleton.mpr (by decide)) (by decide)
    (Text.map_toLower_hexOfBytes Char.toUpper (by decide) _)

/-- The proof is recorded with its reference. -/
theorem proof_recorded : Recorded writer reader .proof (some "p.json") (some "p.hex")
    (Outcome.mk 0 (String.ofList proofDigits) "").output :=
  .stored rfl proof_printed rfl rfl proof_stored

/-- The public input is recorded with its reference. -/
theorem public_recorded : Recorded writer reader .publicInputs (some "u.json") (some "u.hex")
    (Outcome.mk 0 (String.ofList publicDigits) "").output :=
  .stored rfl public_printed rfl rfl public_stored

/-- What was printed for the proof and the public input matches after it was stored in other spellings. -/
theorem printed_references_agree_respelled :
    ∃ outcome, Compare.run reader Compare.requiredTexts = .ok outcome ∧ outcome.status = 0 := by
  -- Both artifacts are recorded, and there is no key to compare.
  have asked : Compare.Request.ofTexts reader.edition Compare.requiredTexts = .ok (Compare.requestWith none none) :=
    rfl
  obtain ⟨session, starts⟩ := Compare.exists_starts (artifacts ++ references)
  obtain ⟨_, outcome, _, _, done, success, _⟩ :=
    printed_references_agree asked starts proof_recorded public_recorded (.absent rfl rfl)
  exact ⟨outcome, done, success⟩

end Agreement

end Command

end ProofWire
