import ProofWire.Proofs.Command.Ending
import ProofWire.Proofs.Log.Setup

/-! The debug log of the encode command: what the encoders notice, written where the logger of the settings is their own
or stands above it, and lost otherwise. -/

namespace ProofWire

namespace Log

/-- The logger of the encoders stands below the root alone. -/
theorem Registry.Tidy.lineage_encoder {registry : Registry} {name : LoggerName} (tidy : registry.Tidy name)
    (known : registry.known.contains encoderName = true) :
    registry.lineage (.named encoderName) = [.named encoderName, .root] := by
  -- The name is in use, so that the row of names is not empty.
  refine lineage_of_root registry tidy.top (tidy.encoder known) fun none => ?_
  rw [none] at known
  cases known

/-- Three texts name a logger that the encoders reach: two of them the root, one their own. -/
theorem LoggerName.ofText_mem_iff (name : String) :
    ofText name = .root ∨ ofText name = .named Registry.encoderName ↔ name ∈ ["", "root", "Encoder Logger"] := by
  unfold ofText
  -- The two texts for the root are looked at first.
  by_cases empty : name = ""
  · simp [empty]
  · by_cases root : name = "root"
    · simp [root]
    · simp [empty, root, Registry.encoderName]

namespace State

variable {state : State} {name : LoggerName} {format : Format}

/-- Where a logger speaks from the lowest severity on, the encoders are heard if it is their own or the root. -/
theorem Speaks.streams_encoder (speaks : state.Speaks name Severity.debug.rank format)
    (undecided : state.decided = [])
    (levels : ∀ other, other ≠ name → (state.logger other).level = (State.initial.logger other).level) :
    state.Streams (.named Registry.encoderName) .debug
      (Decidable.decide (name = .root ∨ name = .named Registry.encoderName)) format := by
  obtain ⟨taken, tidy⟩ := speaks.tidy.use_encoder
  -- Two loggers decide about a report of the encoders: their own and the root.
  have lineage := tidy.lineage_encoder (Registry.contains_known_use _ _)
  have level : ∀ other, ((state.registry.use (.named Registry.encoderName)).1.logger other).level =
      (state.logger other).level := fun other =>
    (settings_use state (.named Registry.encoderName) other).2
  have handlers : ∀ other, ((state.registry.use (.named Registry.encoderName)).1.logger other).handlers =
      (state.logger other).handlers := fun other =>
    (settings_use state (.named Registry.encoderName) other).1
  refine ⟨taken, ?_, ?_, speaks.tidy.titles _, speaks.unfiltered _, fun hears => ?_⟩
  · rw [Registry.effectiveLevel, lineage, List.map_cons, List.map_singleton, level, level]
    by_cases root : name = .root
    · -- The logger of the encoders has no level of its own, so that the root decides.
      subst root
      rw [levels _ LoggerName.noConfusion, speaks.level]
      rfl
    · by_cases encoder : name = .named Registry.encoderName
      · subst encoder
        rw [speaks.level]
        rfl
      · -- Here as well the root decides, and it still asks for warnings.
        rw [levels _ (Ne.symm encoder), levels _ (Ne.symm root)]
        simp only [root, encoder, or_self]
        rfl
  · intro answer found
    rw [undecided] at found
    cases found
  · -- One of the two loggers has the stream, and the other has no handler.
    rw [Registry.handlers, lineage, List.flatMap_cons, List.flatMap_singleton, handlers, handlers]
    rcases of_decide_eq_true hears with root | encoder
    · subst root
      rw [speaks.handlers, speaks.silent _ LoggerName.noConfusion]
      rfl
    · subst encoder
      rw [speaks.handlers, speaks.silent _ LoggerName.noConfusion]
      rfl

end State

end Log

namespace Command

open Log

namespace Console

/-- The record that the logger of the encoders makes of an event at a moment. -/
def debugRecord (event : Event) (moment : Moment) : Record :=
  State.recordOf encoderLogger .debug event.text moment

/-- The standard format shows what the encoders notice. -/
theorem render?_debugRecord (event : Event) (moment : Moment) :
    Format.standard.render? (debugRecord event moment) = some ("[[" ++ moment.time ++ "] " ++ event.text) :=
  Format.render?_standard rfl

/-- The records of events, the first of them of the moment after as many notes. -/
def debugRecords (runtime : Runtime) (notes : Nat) (events : List Event) : List Record :=
  events.mapIdx fun index event => debugRecord event (runtime.clock (notes + index))

/-- The first event has the first record, and the others have theirs one note later. -/
theorem debugRecords_cons (runtime : Runtime) (notes : Nat) (event : Event) (rest : List Event) :
    debugRecords runtime notes (event :: rest) =
      debugRecord event (runtime.clock notes) :: debugRecords runtime (notes + 1) rest := by
  simp only [debugRecords, List.mapIdx_cons, Nat.add_zero, Nat.add_assoc, Nat.add_comm 1]

/-- Tracing events writes what the format makes of each of their records, or nothing at all. -/
theorem written_trace {console : Console} {taken : Bool} {format : Format}
    (streams : console.logging.Streams encoderLogger .debug taken format) (events : List Event) :
    (console.trace events).written =
      console.written ++
        if taken then textsOf console.runtime format (debugRecords console.runtime console.notes events) else [] := by
  -- After each event the logger treats the next one as it treated the first.
  induction events generalizing console with
  | nil => cases taken <;> exact (List.append_nil _).symm
  | cons event rest ih =>
    obtain ⟨still, stream⟩ :=
      streams.log (console.runtime.clock console.notes) verb_debugLevel (event.text_note debugLevel)
    have later := @ih (console.log encoderLogger debugLevel event) still
    have first : (console.log encoderLogger debugLevel event).written = console.written ++
        if taken then (Handler.notices format (debugRecord event (console.runtime.clock console.notes))).map
          (Notice.text console.runtime.trace) else [] := by
      rw [log, stream]
      cases taken <;> rfl
    refine later.trans ?_
    rw [first, List.append_assoc, debugRecords_cons, textsOf_cons]
    cases taken <;> rfl

/-- Records that a format shows leave their lines. -/
theorem textsOf_of_shown {runtime : Runtime} {format : Format} {records : List Record} {texts : List String}
    (shown : records.map format.render? = texts.map some) :
    textsOf runtime format records = texts.map (· ++ "\n") := by
  -- Each text belongs to the record at its place.
  induction records generalizing texts with
  | nil =>
    cases texts with
    | nil => rfl
    | cons text others => cases shown
  | cons record rest ih =>
    cases texts with
    | nil => cases shown
    | cons text others =>
      obtain ⟨first, later⟩ := List.cons.inj shown
      rw [textsOf_cons, Handler.notices_of_shown first, ih later]
      rfl

end Console

/--
Settings that name a logger by a text, ask for the lowest severity and give an accepted format start a session. What the
encoders report in it goes to its stream under three names, and nowhere under the others.
-/
theorem Session.exists_streams {host : Host} {settings : Settings} {name level : String}
    {given : Value} {format : Format} (loaded : host.settings = .ok settings)
    (named : settings.loggerName = .ok (.text name)) (leveled : settings.loggerLevel = .ok (.text level))
    (debug : Text.upper level = "DEBUG") (formatted : settings.loggerFormat = .ok given)
    (accepted : Format.ofValue given = .ok format) :
    ∃ session, Starts host (fun _ => .ok ()) session ∧
      session.console = ⟨host.runtime, session.console.logging, [], 0⟩ ∧
      session.console.logging.Streams Console.encoderLogger .debug
        (Decidable.decide (name ∈ ["", "root", "Encoder Logger"])) format := by
  let setup : State.Setup := ⟨false, .text name, .text level, given⟩
  have asked : setupOf settings = .ok setup := setupOf_eq_ok_iff.mpr ⟨named, leveled, formatted, rfl⟩
  have planned : plan host (fun _ => .ok ()) = .ok (settings, setup) :=
    plan_eq_ok_iff.mpr ⟨loaded, rfl, asked⟩
  have logger : LoggerName.ofValue setup.name = .ok (LoggerName.ofText name) := LoggerName.ofValue_text name
  have rank : levelOfValue setup.level = .ok Severity.debug.rank := by
    simp only [setup, levelOfValue, debug]
    rfl
  have stream : setup.usesQueue = false := rfl
  -- The first setup of all makes its logger speak, since none of its values is refused.
  rcases State.setup_initial stream with ⟨_, _, _, names, done, speaks⟩ | ⟨_, _, refuses, _⟩
  · cases logger.symm.trans names.name
    cases rank.symm.trans names.level
    cases accepted.symm.trans names.format
    have started : (Console.initial host.runtime).setup setup =
        (⟨host.runtime, (State.initial.setup setup).state, [], 0⟩, .ok (LoggerName.ofText name)) := by
      simp only [Console.setup, Console.initial, done]
    have streams := speaks.streams_encoder (State.decided_setup done) fun other apart =>
      State.level_setup_of_ne logger apart
    simp only [LoggerName.ofText_mem_iff] at streams
    exact ⟨⟨_, _, settings⟩, ⟨setup, planned, started⟩, rfl, streams⟩
  · cases refuses with
    | name refused => cases logger.symm.trans refused
    | level refused => cases rank.symm.trans refused
    | format refused => cases accepted.symm.trans refused

namespace Encode

namespace Mode

/-- The steps on the points of an artifact, in the order of the wire; public inputs have none. -/
def pointSteps (mode : Mode) (source : Value) : List ProofWire.Encode.Step :=
  match mode with
  | .proof => ProofWire.Encode.proofSteps
  | .publicInputs => []
  | .key => ProofWire.Encode.keySteps source

/-- The report of the size of an artifact. -/
def sizeEvent (mode : Mode) (source : Value) : Event :=
  match mode with
  | .proof => ⟨"proof", "encodeProof", "256 bytes"⟩
  | .publicInputs => ⟨"public", "encodePublic",
      s!"{ProofWire.Encode.signalCount source} signals, {4 + 32 * ProofWire.Encode.signalCount source} bytes"⟩
  | .key => ⟨"vk", "encodeVk", s!"{452 + 64 * ProofWire.Encode.rowCount source} bytes"⟩

/-- What is there to notice of an artifact: each of its points at infinity, and its size. -/
def notices (mode : Mode) (source : Value) : List Event :=
  (mode.pointSteps source).filterMap (·.notice? source) ++ [mode.sizeEvent source]

/-- An encoder that succeeds has reported what there is to notice. -/
theorem events_encode {mode : Mode} {source : Value} {text : String}
    (encoded : (mode.encode source).result = .ok text) : (mode.encode source).events = mode.notices source := by
  -- Proofs and keys report their points and then their size, which is known from the input alone.
  cases mode with
  | proof =>
    obtain ⟨content, written, events⟩ :=
      ProofWire.Encode.events_sized_of_outline (ProofWire.Encode.outline_proofBytes source) encoded
    rw [ProofWire.Encode.length_proofBytes written] at events
    exact events
  | publicInputs => exact ProofWire.Encode.events_publicInputs encoded
  | key =>
    obtain ⟨content, written, events⟩ :=
      ProofWire.Encode.events_sized_of_outline (ProofWire.Encode.outline_keyBytes source) encoded
    rw [ProofWire.Encode.length_keyBytes written] at events
    exact events

end Mode

/--
The debug log of the command depends on the name of the configured logger.

The settings may come from any source, as long as they name a logger by a text, ask for debug records in letters of
either case, and give an accepted format. Then the command succeeds exactly on inputs that are read and encoded. If the
format shows every record of such an input, each at its own moment of the clock, the error stream holds a line for each
of them, in order, where the name is that of the encoders or one of the two for the root. Under every other name it
stays empty.
-/
theorem debug_log_under_names {host : Host} {texts : List String} {request : Request} {settings : Settings}
    {name level : String} {given : Value} {format : Format}
    (asked : Request.ofTexts host.edition texts = .ok request) (loaded : host.settings = .ok settings)
    (named : settings.loggerName = .ok (.text name)) (leveled : settings.loggerLevel = .ok (.text level))
    (debug : Text.upper level = "DEBUG") (formatted : settings.loggerFormat = .ok given)
    (accepted : Format.ofValue given = .ok format) :
    (∀ outcome, run host texts = .ok outcome → outcome.status = 0 →
      ∃ source text, host.readJson request.input = .ok source ∧
        (request.mode.encode source).result = .ok text) ∧
    ∀ (source : Value) (text : String) (lines : List String), host.readJson request.input = .ok source →
      (request.mode.encode source).result = .ok text →
      (Console.debugRecords host.runtime 0 (request.mode.notices source)).map format.render? = lines.map some →
      run host texts = .ok ⟨0, text,
        if name ∈ ["", "root", "Encoder Logger"] then String.join (lines.map (· ++ "\n")) else ""⟩ := by
  refine ⟨fun outcome done success => ?_, fun source text lines read encoded shown => ?_⟩
  · obtain ⟨source, content, read, written, _⟩ := output_of_success asked done success
    exact ⟨source, _, read, Mode.result_encode_eq_ok_iff.mpr ⟨content, written, rfl⟩⟩
  · -- None of the entries is refused, so that a session starts.
    obtain ⟨session, starts, fresh, streams⟩ :=
      Session.exists_streams loaded named leveled debug formatted accepted
    have log := Console.written_trace streams (request.mode.notices source)
    have runtime : session.console.runtime = host.runtime := congrArg Console.runtime fresh
    have notes : session.console.notes = 0 := congrArg Console.notes fresh
    have written : session.console.written = [] := congrArg Console.written fresh
    rw [runtime, notes, written, Console.textsOf_of_shown shown, List.nil_append] at log
    simp only [run, asked]
    rw [Session.run_of_starts starts]
    simp only [read, write, encoded, Mode.events_encode encoded, Console.close, log, decide_eq_true_eq]
    split <;> rfl

/-- Settings that name the root, a proof with a point at infinity, and a time that counts the notes. -/
def rootHost : Host :=
  { settingsHost "\x7b\"logger\":\x7b\"name\":\"root\",\"level\":\"dEbuG\"\x7d\x7d"
      (Text.asciiBytes ("\x7b\"pi_a\":[5,6,0],\"pi_b\":[[1,2],[3,4],[1,0]],\"pi_c\":[1,2,1]\x7d").toList) with
    runtime := ⟨fun notes => { (default : Moment) with time := toString notes }, fun _ _ => ""⟩ }

/-- Under the root the log is written in the standard format. -/
theorem debug_log_under_names_root :
    ∃ text, (Mode.proof.encode ProofWire.Encode.lowProof).result = .ok text ∧
      run rootHost ["proof", "p.json"] = .ok ⟨0, text,
        "[[0] [pi_a] [encode_g1]]: point at infinity\n[[1] [proof] [encodeProof]]: 256 bytes\n"⟩ := by
  have asked : Request.ofTexts rootHost.edition ["proof", "p.json"] = .ok ⟨.proof, some "p.json"⟩ := rfl
  obtain ⟨settings, loaded, named, leveled, formatted⟩ : ∃ settings, rootHost.settings = .ok settings ∧
      settings.loggerName = .ok (.text "root") ∧ settings.loggerLevel = .ok (.text "dEbuG") ∧
        settings.loggerFormat = .ok (.text Format.standard.text) := ⟨_, rfl, rfl, rfl, rfl⟩
  have debug : Text.upper "dEbuG" = "DEBUG" := rfl
  have accepted : Format.ofValue (.text Format.standard.text) = .ok Format.standard := rfl
  -- The first point lies at infinity, and the size comes last.
  have noticed : Mode.proof.notices ProofWire.Encode.lowProof =
      [⟨"pi_a", "encode_g1", "point at infinity"⟩, ⟨"proof", "encodeProof", "256 bytes"⟩] := by decide
  refine ⟨_, rfl, ?_⟩
  refine (debug_log_under_names asked loaded named leveled debug formatted accepted).2 ProofWire.Encode.lowProof _
    ["[[0] [pi_a] [encode_g1]]: point at infinity", "[[1] [proof] [encodeProof]]: 256 bytes"] rfl rfl ?_
  rw [noticed]
  simp only [Console.debugRecords_cons, List.map_cons, Console.render?_debugRecord]
  rfl

/-- Under another name the log is lost, although the standard format shows it. -/
theorem debug_log_lost_under_foo :
    run (settingsHost "\x7b\"logger\":\x7b\"name\":\"foo\",\"level\":\"DEBUG\"\x7d\x7d"
        (Text.asciiBytes "[]".toList)) ["public", "p.json"] = .ok ⟨0, "00000000", ""⟩ ∧
      (Console.debugRecords (.still default) 0 (Mode.publicInputs.notices (.list []))).map Format.standard.render? =
        [some "[[] [public] [encodePublic]]: 0 signals, 4 bytes"] := by
  -- The command is computed, and so is what the standard format would have shown.
  have noticed : Mode.publicInputs.notices (.list []) =
      [⟨"public", "encodePublic", "0 signals, 4 bytes"⟩] := by decide
  refine ⟨rfl, ?_⟩
  rw [noticed]
  simp only [Console.debugRecords_cons, List.map_cons, Console.render?_debugRecord]
  rfl

end Encode

end Command

end ProofWire
