import ProofWire.Proofs.Artifact.Documented
import ProofWire.Proofs.Command.Compare
import ProofWire.Proofs.Command.Encode
import ProofWire.Proofs.Command.Setup

/-! Endings: whatever the disk holds, a command ends with a status, or it meets a flaw that it does not expect. -/

namespace ProofWire

namespace Report

/-- Comparisons do not fail once their algorithms are known. -/
theorem ofNames_ne_error {names : List Value}
    (known : ∀ named ∈ names, ∃ algorithm, Algorithm.ofValue named = .ok algorithm) (ours reference : Bytes)
    (layout : List Slot) (failure : Failure) :
    Comparison.ofNames ours reference layout (algorithmsOr names) ≠ .error failure := by
  -- All of the names are looked up before anything is compared.
  obtain ⟨algorithms, resolved⟩ := exists_algorithms known
  intro refused
  cases (Comparison.ofNames_of_resolved resolved ours reference layout).symm.trans refused

/-- The comparison of the key is not made because the key is refused in an accounted way. -/
theorem accounted_of_buildKey {subjects : Subjects} {names : List Value} {failure : Failure}
    (known : ∀ named ∈ names, ∃ algorithm, Algorithm.ofValue named = .ok algorithm)
    (failed : (buildKey subjects (algorithmsOr names)).result = .error failure) : failure.Accounted subjects.key := by
  by_cases missing : subjects.key = .null ∨ subjects.referenceKey = none
  · cases (result_buildKey_of_missing missing).symm.trans failed
  · -- Both sides are given, so that the key is read.
    obtain ⟨given, some⟩ := not_or.mp missing
    obtain ⟨reference, found⟩ := Option.ne_none_iff_exists'.mp some
    rw [result_buildKey_of_given given found] at failed
    rcases bind_eq_error_iff.mp failed with unread | ⟨_, _, later⟩
    · exact Encode.accounted_of_readKey unread
    rcases bind_eq_error_iff.mp later with refused | ⟨_, _, done⟩
    · exact absurd refused (ofNames_ne_error known _ _ _ _)
    · cases done

/-- A report is not made because one of the artifacts is refused in an accounted way. -/
theorem accounted_of_build {subjects : Subjects} {names : List Value} {failure : Failure}
    (known : ∀ named ∈ names, ∃ algorithm, Algorithm.ofValue named = .ok algorithm)
    (failed : (build subjects names).result = .error failure) :
    ∃ source ∈ [subjects.proof, subjects.publicInputs, subjects.key], failure.Accounted source := by
  -- The artifacts are read in order, and each is compared before the next one is read.
  simp only [build, Traced.result_bind, Traced.result_lift, Traced.result_pure] at failed
  rcases bind_eq_error_iff.mp failed with unread | ⟨_, _, later⟩
  · exact ⟨_, by simp, Encode.accounted_of_readProof unread⟩
  rcases bind_eq_error_iff.mp later with refused | ⟨_, _, later⟩
  · exact absurd refused (ofNames_ne_error known _ _ _ _)
  rcases bind_eq_error_iff.mp later with unread | ⟨_, _, later⟩
  · exact ⟨_, by simp, PublicInputs.accounted_of_ofValue unread⟩
  rcases bind_eq_error_iff.mp later with refused | ⟨_, _, later⟩
  · exact absurd refused (ofNames_ne_error known _ _ _ _)
  rcases bind_eq_error_iff.mp later with unbuilt | ⟨_, _, done⟩
  · exact ⟨_, by simp, accounted_of_buildKey known unbuilt⟩
  · cases done

end Report

namespace Command

/--
What a command does.

It reports under the name of a component and checks its settings, which may be unfit for that. Once it is set up it
complains, after some events, about what it reads; or it completes, after some events, with a status and a text; or it
meets a flaw for which it has no message.
-/
structure Conduct where
  component : String
  check : Settings → Except Failure Unit
  unfit : Settings → Failure → Prop
  complains : Settings → List Event → String → Prop
  completes : Settings → List Event → Nat → String → Prop
  flawed : Failure → Prop

/--
How a command ends on a host.

Settings that are refused, and all that it complains about, leave status one, no output and a line of errors. That line
is the standard one for settings. Else it is what the logger writes at its rank and in its format, which the settings
ask for, and it follows what the events have written: a format that does not show the record leaves the notice of that
in place of the line, and a rank above that of errors leaves nothing. No other failures end the command than flaws of
the settings and those of what it reads.
-/
inductive Ends (host : Host) (conduct : Conduct) : Except Failure Outcome → Prop where
  | refused {console : Console} {failure : Failure}
    (blocked : Session.Blocked host conduct.check console failure) (rejected : failure.isRejection = true) :
    Ends host conduct
      (.ok ⟨1, "", Session.refusalLine (host.runtime.clock 0).time conduct.component failure.message⟩)
  | unfit {failure : Failure}
    (flaw : Settings.Flaw host.disk host.settingsDepth host.source conduct.unfit failure) :
    Ends host conduct (.error failure)
  | complained {session : Session} {rank : Nat} {format : Log.Format} {events : List Event} {message : String}
    (starts : Session.Starts host conduct.check session) (ready : session.Ready host rank format)
    (complains : conduct.complains session.settings events message) :
    Ends host conduct (.ok ⟨1, "", String.join (session.console.trace events).written ++
      Console.errorText host.runtime session.logger rank format (host.runtime.clock events.length) conduct.component
        message⟩)
  | completed {session : Session} {events : List Event} {status : Nat} {output : String}
    (starts : Session.Starts host conduct.check session) (binary : status = 0 ∨ status = 1)
    (completes : conduct.completes session.settings events status output) :
    Ends host conduct (.ok ⟨status, output, String.join (session.console.trace events).written⟩)
  | flawed {session : Session} {failure : Failure} (starts : Session.Starts host conduct.check session)
    (flaw : conduct.flawed failure) : Ends host conduct (.error failure)

namespace Session

variable {host : Host} {conduct : Conduct}

/-- An error that is reported after some events ends a command as a complaint. -/
theorem Ready.ends_fail {session : Session} {rank : Nat} {format : Log.Format} {events : List Event}
    {message : String} (ready : session.Ready host rank format) (starts : Starts host conduct.check session)
    (complains : conduct.complains session.settings events message) :
    Ends host conduct (.ok ((session.console.trace events).fail session.logger conduct.component message)) := by
  -- The error is noted after the events, in the runtime of the host.
  obtain ⟨notes, runtime⟩ := session.console.notes_trace events
  have none : session.console.notes = 0 := congrArg Console.notes ready.fresh
  have same : session.console.runtime = host.runtime := congrArg Console.runtime ready.fresh
  rw [Console.fail_eq (Console.speaks_trace ready.speaks events), notes, runtime, none, same, Nat.zero_add]
  exact .complained starts ready complains

/-- A command that ends in every session that is ready ends in any case. -/
theorem ends_run {body : Session → Except Failure Outcome}
    (checks : ∀ settings failure, settings.config.Standing → conduct.check settings = .error failure →
      failure.isRejection = true ∨ conduct.unfit settings failure)
    (ends : ∀ session rank format, Starts host conduct.check session → session.Ready host rank format →
      Ends host conduct (body session)) :
    Ends host conduct (run host conduct.component conduct.check body) := by
  -- Either a session starts, and the command does what it does, or the settings end it.
  rcases run_cases host conduct.component conduct.check body with
    ⟨session, starts, ran⟩ | ⟨console, failure, blocked, ran⟩
  · obtain ⟨rank, format, ready⟩ := ready_of_starts starts
    rw [ran]
    exact ends session rank format starts ready
  · rw [ran]
    cases rejected : failure.isRejection with
    | true =>
      rw [refuse_of_rejection blocked rejected]
      exact .refused blocked rejected
    | false =>
      rw [refuse, if_neg (by rw [rejected]; decide)]
      exact .unfit ((blocked_cases blocked checks).resolve_left (by rw [rejected]; decide))

end Session

/-- A JSON file that is named is read, and one that is not named cannot be opened. -/
theorem Host.readJson_eq_error_iff {host : Host} {path : Option String} {failure : Failure} :
    host.readJson path = .error failure ↔
      (path = none ∧ failure = .wrongType) ∨ ∃ name, path = some name ∧ host.json name = .error failure := by
  -- The path is looked at first.
  cases path with
  | none => simp [readJson, required, Bind.bind, Except.bind, eq_comm]
  | some name => simp [readJson, required, Bind.bind, Except.bind]

namespace Encode

/-- The command complains about an input that is no JSON file, and about a value that is no artifact. -/
inductive Complains (host : Host) (request : Request) : List Event → String → Prop where
  | unread {path : String} {failure : Failure} (named : request.input = some path)
    (failed : host.json path = .error failure)
    (noticed : host.disk.Refused path failure ∨ ∃ fault, failure = .notJson fault) :
    Complains host request [] ("failed to parse JSON at " ++ path ++ ": " ++ failure.message)
  | unencodable {source : Value} {fault : Fault} (read : host.readJson request.input = .ok source)
    (failed : (request.mode.encode source).result = .error (.classified fault)) :
    Complains host request (request.mode.encode source).events
      (fault.kind.categoryOf.name ++ "/" ++ fault.kind.name ++ ": " ++ Failure.message (.classified fault))

/-- The command completes with the text of the artifact. -/
inductive Completes (host : Host) (request : Request) : List Event → Nat → String → Prop where
  | encoded {source : Value} {text : String} (read : host.readJson request.input = .ok source)
    (done : (request.mode.encode source).result = .ok text) :
    Completes host request (request.mode.encode source).events 0 text

/--
The command does not expect an input without a path, a file with a flaw, and a number, or the length of a sequence,
that is too long for the message about the value.
-/
inductive Flawed (host : Host) (request : Request) : Failure → Prop where
  | unnamed (missing : request.input = none) : Flawed host request .wrongType
  | file {path : String} {failure : Failure} (named : request.input = some path)
    (flaw : host.disk.JsonFlaw host.inputDepth path failure) : Flawed host request failure
  | tooLong {source : Value} (read : host.readJson request.input = .ok source)
    (long : ¬ (source.Writable ∧ source.Countable)) : Flawed host request (.digits none)

/-- What the command does with a request; it asks nothing further of its settings. -/
def conduct (host : Host) (request : Request) : Conduct where
  component := request.mode.name
  check _ := .ok ()
  unfit _ _ := False
  complains _ := Complains host request
  completes _ := Completes host request
  flawed := Flawed host request

/-- An artifact that cannot be encoded is refused in an accounted way. -/
theorem Mode.accounted {mode : Mode} {source : Value} {failure : Failure}
    (failed : (mode.encode source).result = .error failure) : failure.Accounted source := by
  -- The text of an artifact is refused as its bytes are.
  rw [result_encode_eq_error_iff] at failed
  cases mode with
  | proof => exact ProofWire.Encode.accounted_of_ended (ProofWire.Encode.ended_proofBytes source) failed
  | publicInputs => exact ProofWire.Encode.accounted_of_publicBytes failed
  | key => exact ProofWire.Encode.accounted_of_ended (ProofWire.Encode.ended_keyBytes source) failed

/-- The command has no message for a flaw of its input. -/
theorem failRead_of_flaw {host : Host} {path : String} {failure : Failure}
    (flaw : host.disk.JsonFlaw host.inputDepth path failure) (session : Session) (request : Request) :
    failRead session request failure = .error failure := by
  -- The command names refusals and faults of JSON, and a flaw is neither of them.
  cases flaw with
  | text flaw => cases flaw <;> rfl
  | longNumber | tooDeep => rfl

/-- An input that is not read ends the command. -/
theorem ends_failRead {host : Host} {request : Request} {session : Session} {rank : Nat} {format : Log.Format}
    {failure : Failure} (starts : Session.Starts host (conduct host request).check session)
    (ready : session.Ready host rank format) (unread : host.readJson request.input = .error failure) :
    Ends host (conduct host request) (failRead session request failure) := by
  rcases Host.readJson_eq_error_iff.mp unread with ⟨missing, rfl⟩ | ⟨path, named, failed⟩
  · exact .flawed starts (.unnamed missing)
  · have path_eq : request.input.getD "" = path := by rw [named, Option.getD_some]
    -- A refusal and a fault of JSON are told, and a flaw is not.
    rcases Disk.json_cases failed with refused | ⟨fault, rfl⟩ | flaw
    · have complains := Complains.unread named failed (Or.inl refused)
      obtain ⟨_, _, rfl⟩ := refused
      simp only [failRead, path_eq]
      exact ready.ends_fail starts complains
    · have complains := Complains.unread named failed (Or.inr ⟨fault, rfl⟩)
      simp only [failRead, path_eq]
      exact ready.ends_fail starts complains
    · rw [failRead_of_flaw flaw]
      exact .flawed starts (.file named flaw)

/-- An input that is read is encoded or refused, which ends the command. -/
theorem ends_write {host : Host} {request : Request} {session : Session} {rank : Nat} {format : Log.Format}
    {source : Value} (starts : Session.Starts host (conduct host request).check session)
    (ready : session.Ready host rank format) (read : host.readJson request.input = .ok source) :
    Ends host (conduct host request) (write session request.mode source) := by
  cases done : (request.mode.encode source).result with
  | ok text =>
    simp only [write, done]
    exact .completed starts (Or.inl rfl) (.encoded read done)
  | error failure =>
    -- A fault is reported under its category, and only a message that cannot be written is not.
    have accounted := Mode.accounted done
    cases accounted with
    | documented documented =>
      simp only [write, done]
      exact ready.ends_fail starts (.unencodable read done)
    | tooLong long =>
      simp only [write, done]
      exact .flawed starts (.tooLong read long)

/-- The command ends. -/
theorem ends_run (host : Host) {texts : List String} {request : Request}
    (asked : Request.ofTexts host.edition texts = .ok request) :
    Ends host (conduct host request) (run host texts) := by
  simp only [run, asked]
  -- There is nothing in the settings that the command checks, so that only its session is left to follow.
  refine Session.ends_run (fun _ _ _ unchecked => by cases unchecked) fun session rank format starts ready => ?_
  cases read : host.readJson request.input with
  | error failure => exact ends_failRead starts ready read
  | ok source => exact ends_write starts ready read

end Encode

namespace Compare

/-- The JSON files of a request: the proof, the public inputs and, where its path is not empty, the key. -/
def Request.artifacts (request : Request) : List (Option String) :=
  [request.proof, request.publicInputs] ++ (present request.key).toList.map some

/-- The files of hexadecimal text of a request: the references, that of the key where its path is not empty. -/
def Request.references (request : Request) : List (Option String) :=
  [request.referenceProof, request.referencePublic] ++ (present request.referenceKey).toList.map some

/-- What a report compares under the algorithms of settings. -/
def reportOf (settings : Settings) (subjects : Report.Subjects) : Traced Report :=
  Report.build subjects ((settings.algorithms.toOption.getD []).map fun algorithm => .text algorithm.name)

/-- A failure that the command reports. -/
inductive Noticed : Failure → Prop where
  | refused (refusal : Refusal) (path : String) : Noticed (.refused refusal path)
  | notJson (fault : JsonFault) : Noticed (.notJson fault)
  | classified (fault : Fault) : Noticed (.classified fault)

/-- The command complains about a file that does not open or hold what it should, and about a value that is no
artifact. -/
inductive Complains (host : Host) (request : Request) (settings : Settings) : List Event → String → Prop where
  | unread {failure : Failure} (failed : read host request = .error failure) (noticed : Noticed failure) :
    Complains host request settings [] failure.message
  | unencodable {subjects : Report.Subjects} {fault : Fault} (done : read host request = .ok subjects)
    (failed : (reportOf settings subjects).result = .error (.classified fault)) :
    Complains host request settings (reportOf settings subjects).events (Failure.message (.classified fault))

/-- The command completes with the text of a report, and the status tells whether all artifacts match. -/
inductive Completes (host : Host) (request : Request) (settings : Settings) : List Event → Nat → String → Prop where
  | reported {subjects : Report.Subjects} {report : Report} {text : String}
    (done : read host request = .ok subjects) (built : (reportOf settings subjects).result = .ok report)
    (printed : request.print report = .ok text) :
    Completes host request settings (reportOf settings subjects).events (if report.allMatch then 0 else 1) text

/--
The command does not expect a file without a path, a file with a flaw, a number, or the length of a sequence, that is
too long for the message about the value, and a reference whose length has no text.
-/
inductive Flawed (host : Host) (request : Request) : Failure → Prop where
  | unnamed (missing : none ∈ request.artifacts ++ request.references) : Flawed host request .wrongType
  | artifact {path : String} {failure : Failure} (member : some path ∈ request.artifacts)
    (flaw : host.disk.JsonFlaw host.inputDepth path failure) : Flawed host request failure
  | reference {path : String} {failure : Failure} (member : some path ∈ request.references)
    (flaw : host.disk.TextFlaw (Path.normal path) failure) : Flawed host request failure
  | tooLong {subjects : Report.Subjects} {source : Value} (done : read host request = .ok subjects)
    (member : source ∈ [subjects.proof, subjects.publicInputs, subjects.key])
    (long : ¬ (source.Writable ∧ source.Countable)) : Flawed host request (.digits none)
  | endless {subjects : Report.Subjects} {reference : Bytes} (done : read host request = .ok subjects)
    (member : reference ∈ subjects.references) (long : Text.decimalBound ≤ reference.length) :
    Flawed host request (.digits none)

/-- What the command does with a request; its settings have to name known algorithms. -/
def conduct (host : Host) (request : Request) : Conduct where
  component := component
  check := checkAlgorithms
  unfit := Settings.AlgorithmFlaw
  complains := Complains host request
  completes := Completes host request
  flawed := Flawed host request

variable {host : Host} {request : Request} {failure : Failure}

/-- The command has no message for what it does not expect. -/
theorem Flawed.failWith_eq (flaw : Flawed host request failure) (session : Session) :
    failWith session session.console failure = .error failure := by
  -- The command names refusals, faults of JSON and classified faults, and a flaw is none of these.
  cases flaw with
  | unnamed | tooLong | endless => rfl
  | artifact member flaw =>
    cases flaw with
    | text flaw => cases flaw <;> rfl
    | longNumber | tooDeep => rfl
  | reference member flaw => cases flaw <;> rfl

/-- A JSON file of a request is not read because of something that is reported, or of a flaw. -/
theorem noticed_of_readJson {path : Option String} (member : path ∈ request.artifacts)
    (failed : host.readJson path = .error failure) : Noticed failure ∨ Flawed host request failure := by
  -- Without a path there is nothing to open; with one the file is refused, malformed or flawed.
  rcases Host.readJson_eq_error_iff.mp failed with ⟨rfl, rfl⟩ | ⟨name, rfl, unread⟩
  · exact Or.inr (.unnamed (List.mem_append_left _ member))
  · rcases Disk.json_cases unread with ⟨_, _, rfl⟩ | ⟨_, rfl⟩ | flaw
    · exact Or.inl (.refused _ _)
    · exact Or.inl (.notJson _)
    · exact Or.inr (.artifact member flaw)

/-- A reference of a request is not read because of something that is reported, or of a flaw. -/
theorem noticed_of_readHex {path : Option String} (member : path ∈ request.references)
    (failed : readHex host.disk path = .error failure) : Noticed failure ∨ Flawed host request failure := by
  -- Without a path there is nothing to open; with one the file is refused or flawed, or its digits are at fault.
  cases path with
  | none =>
    cases failed
    exact Or.inr (.unnamed (List.mem_append_right _ member))
  | some name =>
    have read : (host.disk.text (Path.normal name) >>= fun text => Decode.hexText (String.ofList text)) =
      .error failure := failed
    rcases bind_eq_error_iff.mp read with unread | ⟨text, _, undecoded⟩
    · rcases Disk.text_cases unread with ⟨_, _, rfl⟩ | flaw
      · exact Or.inl (.refused _ _)
      · exact Or.inr (.reference member flaw)
    · unfold Decode.hexText at undecoded
      dsimp only at undecoded
      split at undecoded
      · cases undecoded
      · cases undecoded
        exact Or.inl (.classified _)

/-- The files of a request are not read because of something that is reported, or of a flaw. -/
theorem noticed_of_read (failed : read host request = .error failure) :
    Noticed failure ∨ Flawed host request failure := by
  -- The files are read in order, and the first that fails ends this.
  rw [read_eq] at failed
  rcases bind_eq_error_iff.mp failed with unread | ⟨_, _, later⟩
  · exact noticed_of_readJson (by simp [Request.artifacts]) unread
  rcases bind_eq_error_iff.mp later with unread | ⟨_, _, later⟩
  · exact noticed_of_readJson (by simp [Request.artifacts]) unread
  rcases bind_eq_error_iff.mp later with unread | ⟨_, _, later⟩
  · exact noticed_of_readHex (by simp [Request.references]) unread
  rcases bind_eq_error_iff.mp later with unread | ⟨_, _, later⟩
  · exact noticed_of_readHex (by simp [Request.references]) unread
  -- The files of the key are left out where they have no path.
  rcases bind_eq_error_iff.mp later with unread | ⟨_, _, later⟩
  · unfold keyValue at unread
    split at unread
    · rename_i path named
      have member : some path ∈ request.artifacts := by simp [Request.artifacts, named]
      exact noticed_of_readJson member unread
    · cases unread
  rcases bind_eq_error_iff.mp later with unread | ⟨_, _, done⟩
  · unfold keyReference at unread
    split at unread
    · rename_i path named
      cases undecoded : readHex host.disk (some path) with
      | ok content =>
        rw [undecoded] at unread
        cases unread
      | error other =>
        rw [undecoded] at unread
        cases unread
        exact noticed_of_readHex (by simp [Request.references, named]) undecoded
    · cases unread
  · cases done

/-- Settings that do not pass the check are refused, or they have a flaw in how they name the algorithms. -/
theorem checkAlgorithms_cases {settings : Settings} (standing : settings.config.Standing)
    (unchecked : checkAlgorithms settings = .error failure) :
    failure.isRejection = true ∨ settings.AlgorithmFlaw failure := by
  -- The check fails as the algorithms do.
  refine Settings.algorithms_cases standing ?_
  cases named : settings.algorithms with
  | ok algorithms =>
    rw [checkAlgorithms, named] at unchecked
    cases unchecked
  | error other =>
    rw [checkAlgorithms, named] at unchecked
    cases unchecked
    rfl

variable {session : Session} {rank : Nat} {format : Log.Format}

/-- Files that are not read end the command. -/
theorem ends_failWith (starts : Session.Starts host (conduct host request).check session)
    (ready : session.Ready host rank format) (unread : read host request = .error failure) :
    Ends host (conduct host request) (failWith session session.console failure) := by
  -- What the command has a message for is told, and the rest is a flaw.
  rcases noticed_of_read unread with noticed | flaw
  · have complains : Complains host request session.settings [] failure.message := .unread unread noticed
    cases noticed <;> exact ready.ends_fail starts complains
  · rw [flaw.failWith_eq session]
    exact .flawed starts flaw

/-- Artifacts that are read are compared or refused, which ends the command. -/
theorem ends_write {subjects : Report.Subjects} (starts : Session.Starts host (conduct host request).check session)
    (ready : session.Ready host rank format) (done : read host request = .ok subjects) :
    Ends host (conduct host request) (write session request subjects) := by
  obtain ⟨algorithms, named⟩ := exists_algorithms_of_starts starts
  -- The settings have passed the check, so that the report is made with their algorithms.
  have compared : reportOf session.settings subjects =
      Report.build subjects (algorithms.map fun algorithm => .text algorithm.name) := by
    rw [reportOf, named]
    rfl
  rw [write_eq named, ← compared]
  dsimp only
  cases built : (reportOf session.settings subjects).result with
  | error failure =>
    have failed := built
    rw [compared] at failed
    obtain ⟨source, member, accounted⟩ := Report.accounted_of_build known_of_mem_names failed
    cases accounted with
    | documented documented => exact ready.ends_fail starts (.unencodable done built)
    | tooLong long => exact .flawed starts (.tooLong done member long)
  | ok report =>
    dsimp only
    cases printed : request.print report with
    | ok text =>
      refine .completed starts ?_ (.reported done built printed)
      cases report.allMatch
      · exact Or.inr rfl
      · exact Or.inl rfl
    | error failure =>
      -- The document of a report is always written, its summary may not be.
      unfold Request.print at printed
      split at printed
      · cases printed
      · rw [compared] at built
        obtain ⟨rfl, reference, member, long⟩ := Report.long_of_summary built printed
        exact .flawed starts (.endless done member long)

/-- The command ends. -/
theorem ends_run (host : Host) {texts : List String} {request : Request}
    (asked : Request.ofTexts host.edition texts = .ok request) :
    Ends host (conduct host request) (run host texts) := by
  simp only [run, asked]
  -- The algorithms are all that the command checks in its settings.
  refine Session.ends_run (fun _ _ => checkAlgorithms_cases) fun session rank format starts ready => ?_
  cases done : read host request with
  | error failure => exact ends_failWith starts ready done
  | ok subjects => exact ends_write starts ready done

end Compare

/--
On every host and for every command line that is accepted, both commands end in one of these ways.

They leave status zero or one; or they leave status one, no output and a line of errors; or they meet one of the flaws
of their settings and files that they do not expect. No other failure leaves them without an end.
-/
theorem commands_end (host : Host) (texts : List String) :
    (∀ request, Encode.Request.ofTexts host.edition texts = .ok request →
      Ends host (Encode.conduct host request) (Encode.run host texts)) ∧
    ∀ request, Compare.Request.ofTexts host.edition texts = .ok request →
      Ends host (Compare.conduct host request) (Compare.run host texts) :=
  ⟨fun _ asked => Encode.ends_run host asked, fun _ asked => Compare.ends_run host asked⟩

/-- The host of an empty disk. -/
def emptyHost : Host :=
  Compare.hostOfFiles []

/-- On an empty disk the encoder ends with status one and without output, and the comparison ends as well. -/
theorem commands_end_on_empty_disk :
    (∃ outcome, Encode.run emptyHost ["proof", "p.json"] = .ok outcome ∧ outcome.status = 1 ∧
      outcome.output = "") ∧
    Ends emptyHost (Compare.conduct emptyHost (Compare.requestWith none none))
      (Compare.run emptyHost Compare.requiredTexts) := by
  have asked : Encode.Request.ofTexts emptyHost.edition ["proof", "p.json"] = .ok ⟨.proof, some "p.json"⟩ := rfl
  have unopened : emptyHost.disk.bytes "p.json" = .error (.refused .notFound "p.json") := rfl
  have untold : emptyHost.disk.text "p.json" = .error (.refused .notFound "p.json") := rfl
  have unread : emptyHost.readJson (some "p.json") = .error (.refused .notFound "p.json") := rfl
  have loaded : emptyHost.settings = .ok ⟨.standard, .defaults⟩ := rfl
  refine ⟨?_, (commands_end emptyHost Compare.requiredTexts).2 _ rfl⟩
  have ends := (commands_end emptyHost ["proof", "p.json"]).1 _ asked
  generalize Encode.run emptyHost ["proof", "p.json"] = result at ends ⊢
  cases ends with
  | refused => exact ⟨_, rfl, rfl, rfl⟩
  | complained => exact ⟨_, rfl, rfl, rfl⟩
  | completed starts binary completes =>
    cases completes with
    | encoded read => cases unread.symm.trans read
  | unfit flaw =>
    -- The standard settings are texts.
    have name : Settings.loggerName ⟨.standard, .defaults⟩ = .ok (.text "Encoder Logger") := rfl
    have level : Settings.loggerLevel ⟨.standard, .defaults⟩ = .ok (.text "INFO") := rfl
    have format : Settings.loggerFormat ⟨.standard, .defaults⟩ = .ok (.text Log.Format.standard.text) := rfl
    cases flaw with
    | barred named | unopened named | tooDeep named | noSections named | noEntries named => cases named
    | name found given _ single =>
      cases loaded.symm.trans found
      cases name.symm.trans given
      exact absurd rfl (single _)
    | level found given single =>
      cases loaded.symm.trans found
      cases level.symm.trans given
      exact absurd rfl (single _)
    | format found given _ single =>
      cases loaded.symm.trans found
      cases format.symm.trans given
      exact absurd rfl (single _)
    | further _ flawed => cases flawed
  | flawed starts flaw =>
    cases flaw with
    | unnamed missing => cases missing
    | tooLong read => cases unread.symm.trans read
    | file named flaw =>
      cases named
      cases flaw with
      | text flaw =>
        cases flaw with
        | null held => cases held
        | noText held => cases unopened.symm.trans held
      | longNumber held | tooDeep held => cases untold.symm.trans held

/-- A host with settings and an input. -/
def settingsHost (settings : String) (input : Bytes) : Host :=
  .still (.ofFiles [("c.json", Text.asciiBytes settings.toList), ("p.json", input)]) (some "c.json") 990 default

/--
Some failures leave a command without an end, and a level above that of errors leaves it without a line.

The input may be no text, and settings may be a list instead of an object.
-/
theorem encode_without_end :
    Encode.run (settingsHost "\x7b\x7d" [0xff]) ["proof", "p.json"] = .error (.notText ⟨0, [0xff], .start⟩) ∧
      Encode.run (settingsHost "[]" []) ["proof", "p.json"] = .error .noSuchOperation ∧
      Encode.run (settingsHost "\x7b\"logger\":\x7b\"level\":\"CRITICAL\"\x7d\x7d" []) ["proof", "p.json"] =
        .ok ⟨1, "", ""⟩ :=
  ⟨rfl, rfl, rfl⟩

end Command

end ProofWire
