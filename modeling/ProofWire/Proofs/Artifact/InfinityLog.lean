import ProofWire.Command.Console
import ProofWire.Proofs.Artifact.PublicRoundTrip
import ProofWire.Proofs.Artifact.Steps
import ProofWire.Proofs.Layout.Description
import ProofWire.Proofs.Log.Stream

/-! The log of the encoders: the points at infinity and one size, and nothing else about the input. -/

namespace ProofWire

namespace Log.State

/-- A logger takes reports of the lowest severity and passes them to the queue alone. -/
structure Hears (state : State) (name : LoggerName) : Prop where
  inUse : state.registry.use name = (state.registry, .ok ())
  low : state.registry.effectiveLevel name ≤ Severity.debug.rank
  undenied : state.decided.lookup (name, .debug) ≠ some false
  unfiltered : (state.logger name).filters = []
  collected : state.registry.handlers name = [.queue]

/-- The record that the queue holds of a report. -/
def heard (state : State) (name : LoggerName) (message : String) (moment : Moment) : Record :=
  (Record.made (state.logger name).title .debug message moment false).queued

/-- A logger that takes reports says so, and keeps to it. -/
theorem Hears.answer {state : State} {name : LoggerName} (hears : state.Hears name) :
    ∃ decided, state.decide name .debug = ({ state with decided }, true) ∧
      decided.lookup (name, .debug) ≠ some false := by
  -- An answer that was given already was no other one.
  have agreed : ∀ answer, state.decided.lookup (name, .debug) = some answer → answer = true := by
    intro answer found
    cases answer with
    | true => rfl
    | false => exact absurd found hears.undenied
  obtain ⟨decided, answered, still⟩ := state.decide_of_agreed (decide_eq_true hears.low) agreed
  refine ⟨decided, answered, fun denied => ?_⟩
  cases still false denied

/-- A note adds one record to the queue, and the next one is taken in the same way. -/
theorem Hears.log {state : State} {name : LoggerName} {note : Note} {message : String} (hears : state.Hears name)
    (moment : Moment) (level : Verb.ofLevel note.level = .ok (.report .debug false))
    (text : note.text = .ok message) :
    (state.log name note moment).state.Hears name ∧
      (state.log name note moment).state.queue = state.queue ++ [some (state.heard name message moment)] := by
  -- The level lets the report through, and the queue is the only handler.
  obtain ⟨decided, answered, undenied⟩ := hears.answer
  have taken : (state.registry.use name).2 = .ok () := congrArg Prod.snd hears.inUse
  have reported : (state.log name note moment).state =
      { state with decided, queue := state.queue ++ [some (state.heard name message moment)] } := by
    have unfiltered : ((state.logger name).filters.isEmpty) = true := by rw [hears.unfiltered]; rfl
    have collected := hears.collected
    rw [log_eq_report moment taken level text, hears.inUse]
    simp only [State.report, answered, State.logger] at unfiltered ⊢
    simp only [unfiltered, Registry.publish, collected, deliver, Handler.emit?]
    rfl
  rw [reported]
  exact ⟨⟨hears.inUse, hears.low, undenied, hears.unfiltered, hears.collected⟩, rfl⟩

end Log.State

namespace Command.Console

/-- A console whose logger of the encoders is set up at the lowest level, with the queue as its only handler. -/
def debugging (runtime : Runtime) : Console :=
  ((initial runtime).setup ⟨true, .text "Encoder Logger", .text "DEBUG", .null⟩).1

/-- The severities and messages of what was emitted, in order. -/
def lines (console : Console) : List String :=
  console.logging.queue.filterMap fun place =>
    place.map fun record => record.severity.name ++ " " ++ record.message

/-- Tracing events emits one line for each of them. -/
theorem lines_trace {console : Console} (hears : console.logging.Hears encoderLogger) (events : List Event) :
    (console.trace events).lines = console.lines ++ events.map fun event => "DEBUG " ++ event.text := by
  -- After each event the logger takes the next one as it took the first.
  induction events generalizing console with
  | nil => simp [trace]
  | cons event rest ih =>
    have level : Log.Verb.ofLevel (event.note debugLevel).level = .ok (.report .debug false) := rfl
    obtain ⟨still, queue⟩ := hears.log (console.runtime.clock console.notes) level (event.text_note debugLevel)
    have first : (console.log encoderLogger debugLevel event).lines =
        console.lines ++ ["DEBUG " ++ event.text] := by
      simp only [lines, log, queue, List.filterMap_append]
      rfl
    have later := @ih (console.log encoderLogger debugLevel event) still
    rw [first, ← List.append_cons] at later
    exact later

end Command.Console

namespace Encode

namespace Step

/-- A step on a part ends well where the part passes a test that makes it do so. -/
theorem onPart_of_any {part : Option Value} {test : Value → Bool} {step : Value → Except Failure Unit}
    (passes : part.any test = true) (ends : ∀ given, test given = true → step given = .ok ()) :
    onPart part step = .ok () := by
  -- A part that is missing passes no test.
  cases part with
  | none => cases passes
  | some given => exact ends given passes

/-- A point at infinity is encoded, whatever its other coordinates are. -/
theorem run_of_isInfinite {source : Value} {step : Step} (infinite : step.isInfinite source = true) :
    step.run source = .ok () := by
  have g1 : ∀ label point, G1.isInfinite point = true →
      ended (Encode.g1 (some label) point).result = .ok () := by
    intro label point zero
    rw [ended_g1, (G1.ofValue_eq_infinity_iff (some label) point).mpr zero]
    rfl
  have g2 : ∀ label point, G2.isInfinite point = true →
      ended (Encode.g2 (some label) point).result = .ok () := by
    intro label point zero
    rw [ended_g2, (G2.ofValue_eq_infinity_iff (some label) point).mpr zero]
    rfl
  -- Only steps on points are about infinity.
  cases step with
  | find | row | count => cases infinite
  | g1 key => exact onPart_of_any infinite (g1 key)
  | g2 key => exact onPart_of_any infinite (g2 key)
  | rowPoint index => exact onPart_of_any infinite (g1 (VerificationKey.icLabel index))

/-- A step that fails reports nothing. -/
theorem notice?_of_fails {source : Value} {step : Step} {failure : Failure}
    (fails : step.run source = .error failure) : step.notice? source = none := by
  -- Only a point at infinity is noticed, and reading one does not fail.
  have finite : step.isInfinite source ≠ true := by
    intro infinite
    cases (run_of_isInfinite infinite).symm.trans fails
  exact if_neg finite

/-- Steps that all succeed report what each of them notices. -/
theorem events_traceAll {source : Value} {steps : List Step} (pass : ∀ step ∈ steps, step.run source = .ok ()) :
    (traceAll source steps).events = steps.filterMap (·.notice? source) := by
  -- Induction on the steps: each reports its own notice before the next one runs.
  induction steps with
  | nil => rfl
  | cons step rest ih =>
    obtain ⟨passes, later⟩ := List.forall_mem_cons.mp pass
    simp only [traceAll, Bind.bind, Traced.bind, trace, passes, ih later]
    cases noticed : step.notice? source <;> simp [noticed]

/-- After a failure, what the steps before the failing one noticed has been reported, and nothing else. -/
theorem FirstFailure.events_traceAll {source : Value} {steps before : List Step} {step : Step} {failure : Failure}
    (first : FirstFailure source steps before step failure) :
    (traceAll source steps).events = before.filterMap (·.notice? source) := by
  -- Induction on the steps before the failing one, which itself reports nothing.
  obtain ⟨⟨after, rfl⟩, earlier, fails⟩ := first
  induction before with
  | nil =>
    simp only [List.nil_append, List.cons_append, traceAll, Bind.bind, Traced.bind, trace, fails,
      notice?_of_fails fails]
    rfl
  | cons head before ih =>
    obtain ⟨passes, later⟩ := List.forall_mem_cons.mp earlier
    simp only [List.cons_append, traceAll, Bind.bind, Traced.bind, trace, passes, ih later]
    cases noticed : head.notice? source <;> simp [noticed]

end Step

/-- What an encoder emits where its logger is set up at the lowest level. -/
def log (runtime : Command.Runtime) (computation : Traced String) : List String :=
  ((Command.Console.debugging runtime).trace computation.events).lines

/-- The line of a message that a component and a step report at the lowest level. -/
def debugLine (component step message : String) : String :=
  s!"DEBUG [{component}] [{step}]]: {message}"

/-- The lines about those points at infinity that some steps encode, in the order of the steps. -/
def infinityLines (source : Value) (steps : List Step) : List String :=
  steps.filterMap fun step =>
    if step.isInfinite source then
      step.subject?.map fun (label, encoder) => debugLine label encoder "point at infinity"
    else none

/-- The logger of the encoders hears every event. -/
theorem log_eq (runtime : Command.Runtime) (computation : Traced String) :
    log runtime computation = computation.events.map fun event => "DEBUG " ++ event.text := by
  -- At the start of the session the logger hears, and it goes on to do so.
  have hears : (Command.Console.debugging runtime).logging.Hears Command.Console.encoderLogger :=
    ⟨rfl, Nat.le_refl _, nofun, rfl, rfl⟩
  exact Command.Console.lines_trace hears computation.events

/-- An event with a message shows as its line. -/
theorem debug_text {component step message : String} (told : message ≠ "") :
    "DEBUG " ++ Event.text ⟨component, step, message⟩ = debugLine component step message := by
  -- The message is set off by a colon unless it is empty.
  have shown : message.isEmpty = false := by simpa using told
  show "DEBUG " ++ ("[" ++ component ++ "] [" ++ step ++ "]]" ++
      if message.isEmpty then "" else ": " ++ message) =
    "DEBUG [" ++ component ++ "] [" ++ step ++ "]]: " ++ message
  rw [shown, ← String.toList_inj]
  simp

/-- What steps notice shows as the lines about their points at infinity. -/
theorem map_text_notices (source : Value) (steps : List Step) :
    (steps.filterMap (·.notice? source)).map (fun event => "DEBUG " ++ event.text) =
      infinityLines source steps := by
  -- Each step notices one point at most, and its line names the part.
  rw [List.map_filterMap, infinityLines]
  congr 1
  funext step
  unfold Step.notice?
  split
  · rw [Option.map_map]
    congr 1
    funext subject
    exact debug_text (by decide)
  · rfl

/-- The text of encoded bytes, after a report of their size. -/
def sized (encoded : Traced Bytes) (size : Bytes → Event) : Traced String := do
  let content ← encoded
  Traced.report (size content)
  return hexText content

/-- Encoded bytes add the report of their size. -/
theorem events_sized_of_ok {encoded : Traced Bytes} {size : Bytes → Event} {content : Bytes}
    (done : encoded.result = .ok content) : (sized encoded size).events = encoded.events ++ [size content] := by
  simp [sized, Bind.bind, Traced.bind, done, Traced.report, pure]

/-- Without bytes nothing is added to the log. -/
theorem log_sized_of_error (runtime : Command.Runtime) {encoded : Traced Bytes} {size : Bytes → Event} {failure : Failure}
    (failed : encoded.result = .error failure) :
    log runtime (sized encoded size) = encoded.events.map fun event => "DEBUG " ++ event.text := by
  rw [log_eq]
  simp [sized, Bind.bind, Traced.bind, failed]

/-- A text is made exactly when there are bytes to write. -/
theorem result_sized (encoded : Traced Bytes) (size : Bytes → Event) :
    (sized encoded size).result = hexText <$> encoded.result := by
  rw [sized, Traced.result_bind]
  cases encoded.result <;> rfl

/-- Bytes that are encoded in steps come with what the steps notice, and their text with the report of the size. -/
theorem events_sized_of_outline {encoded : Traced Bytes} {size : Bytes → Event} {source : Value} {steps : List Step}
    {text : String} (outlined : encoded.outline = Step.traceAll source steps)
    (done : (sized encoded size).result = .ok text) :
    ∃ content, encoded.result = .ok content ∧
      (sized encoded size).events = steps.filterMap (·.notice? source) ++ [size content] := by
  rw [result_sized] at done
  cases result : encoded.result with
  | error failure =>
    rw [result] at done
    cases done
  | ok content =>
    -- Bytes were made, so no step has failed.
    have ends : Step.runAll source steps = .ok () := by
      rw [← Step.result_traceAll, ← outlined, Traced.outline]
      exact ended_eq_ok_iff.mpr ⟨content, result⟩
    have events : encoded.events = (Step.traceAll source steps).events := congrArg Traced.events outlined
    refine ⟨content, rfl, ?_⟩
    rw [events_sized_of_ok result, events, Step.events_traceAll (Step.runAll_eq_ok_iff.mp ends)]

/--
The log of an encoder of points tells their infinities.

Each step that encodes a point at infinity leaves one line, in wire order, and a success adds the line of the size,
which depends on a count alone. A failure leaves the lines of the steps before the one that failed. Two values of the
same count that are encoded and have the same points at infinity leave the same log, whatever else they hold.
-/
structure LogsInfinities (runtime : Command.Runtime) (encode : Value → Traced String) (steps : Value → List Step)
    (count : Value → Nat) (sizeLine : Nat → String) (source : Value) : Prop where
  done : ∀ text, (encode source).result = .ok text →
    log runtime (encode source) = infinityLines source (steps source) ++ [sizeLine (count source)]
  failed : ∀ failure, (encode source).result = .error failure →
    ∃ before step, Step.FirstFailure source (steps source) before step failure ∧
      log runtime (encode source) = infinityLines source before
  blind : ∀ other text otherText, (encode source).result = .ok text →
    (encode other).result = .ok otherText → count source = count other →
    (∀ step ∈ steps source, step.isInfinite source = step.isInfinite other) →
    log runtime (encode source) = log runtime (encode other)

/-- An encoder that reports as its steps do logs their infinities. -/
theorem logsInfinities_of_outline (runtime : Command.Runtime) {encode : Value → Traced Bytes} (size : Bytes → Event)
    {steps : Value → List Step} {count : Value → Nat} {sizeLine : Nat → String}
    (outlined : ∀ source, (encode source).outline = Step.traceAll source (steps source))
    (counted : ∀ source content, (encode source).result = .ok content →
      "DEBUG " ++ (size content).text = sizeLine (count source))
    (shared : ∀ source other, count source = count other → steps source = steps other) (source : Value) :
    LogsInfinities runtime (fun source => sized (encode source) size) steps count sizeLine source := by
  have done : ∀ source text, (sized (encode source) size).result = .ok text →
      log runtime (sized (encode source) size) = infinityLines source (steps source) ++ [sizeLine (count source)] := by
    intro source text encoded
    obtain ⟨content, result, events⟩ := events_sized_of_outline (outlined source) encoded
    rw [log_eq, events, List.map_append, map_text_notices, ← counted source content result]
    rfl
  refine ⟨done source, ?_, ?_⟩
  · intro failure failed
    rw [result_sized] at failed
    cases result : (encode source).result with
    | ok content =>
      rw [result] at failed
      cases failed
    | error other =>
      rw [result] at failed
      cases failed
      -- The bytes fail where the first of the steps does.
      have ends : Step.runAll source (steps source) = .error failure := by
        rw [← Step.result_traceAll, ← outlined, Traced.outline]
        exact ended_eq_error_iff.mpr result
      have events : (encode source).events = (Step.traceAll source (steps source)).events :=
        congrArg Traced.events (outlined source)
      obtain ⟨before, step, first⟩ := Step.runAll_eq_error_iff.mp ends
      exact ⟨before, step, first, by
        rw [log_sized_of_error runtime result, events, first.events_traceAll, map_text_notices]⟩
  · -- Both logs are made of the same lines.
    intro other text otherText encoded otherEncoded sameCount alike
    have lines : infinityLines source (steps source) = infinityLines other (steps source) :=
      List.filterMap_congr fun step member => by rw [alike step member]
    rw [done source text encoded, done other otherText otherEncoded, lines, sameCount, shared _ _ sameCount]

/-- The number of points in the row of a verification key. -/
def rowCount (source : Value) : Nat :=
  (source.rowItems?.getD []).length

/-- The number of public inputs. -/
def signalCount (source : Value) : Nat :=
  (source.items?.getD []).length

/--
The log of public inputs tells how many there are.

It is one line about their number and size; a failure leaves none. As many other inputs leave the same log.
-/
structure LogsCount (runtime : Command.Runtime) (source : Value) : Prop where
  done : ∀ text, (Encode.publicInputs source).result = .ok text →
    log runtime (Encode.publicInputs source) = [debugLine "public" "encodePublic"
      s!"{signalCount source} signals, {4 + 32 * signalCount source} bytes"]
  failed : ∀ failure, (Encode.publicInputs source).result = .error failure →
    log runtime (Encode.publicInputs source) = []
  blind : ∀ other text otherText, (Encode.publicInputs source).result = .ok text →
    (Encode.publicInputs other).result = .ok otherText → signalCount source = signalCount other →
    log runtime (Encode.publicInputs source) = log runtime (Encode.publicInputs other)

/-- A size is told. -/
theorem bytes_text_ne_empty (size : Nat) : s!"{size} bytes" ≠ "" := by
  -- The unit is part of the text.
  intro empty
  have length := congrArg (fun text => text.toList.length) empty
  simp at length

/-- An encoded proof has its size. -/
theorem length_proofBytes {source : Value} {content : Bytes}
    (encoded : (Encode.proofBytes source).result = .ok content) : content.length = 256 := by
  obtain ⟨words, _, written⟩ := Encode.proofBytes_eq_ok_iff.mp encoded
  rw [written, words.length_bytes]

/-- An encoded key has the size that the number of its points makes. -/
theorem length_keyBytes {source : Value} {content : Bytes}
    (encoded : (Encode.keyBytes source).result = .ok content) :
    content.length = 452 + 64 * rowCount source := by
  -- The words of a key are as many as the points of its row ask for.
  obtain ⟨words, denoted, written⟩ := Encode.keyBytes_eq_ok_iff.mp encoded
  obtain ⟨held, given, few, read⟩ := denoted.ic
  rename_i row points
  have row : source.rowItems? = some points := by
    rw [Value.rowItems?, Value.below?, Value.entry_eq_ok_iff.mpr held]
    exact given
  rw [written, words.length_bytes, rowCount, row, Option.getD_some, read.length_eq]

/-- Public inputs that are read are as many as there are items. -/
theorem length_signals {source : Value} {inputs : PublicInputs} (read : PublicInputs.ofValue source = .ok inputs) :
    inputs.signals.length = signalCount source ∧ inputs.bytes.length = 4 + 32 * signalCount source := by
  -- Every item gives one number.
  obtain ⟨given, items, few⟩ := PublicInputs.exists_ofValue_iff.mp ⟨inputs, read, rfl⟩
  have count : inputs.signals.length = signalCount source := by
    rw [signalCount, given, Option.getD_some, items.length_eq, List.length_map]
  rw [inputs.bytes_eq_wire, PublicInputs.length_wire, List.length_map, count]
  exact ⟨rfl, rfl⟩

/-- Public inputs that are encoded come with the report of their number and size. -/
theorem events_publicInputs {source : Value} {text : String}
    (encoded : (Encode.publicInputs source).result = .ok text) :
    (Encode.publicInputs source).events = [⟨"public", "encodePublic",
      s!"{signalCount source} signals, {4 + 32 * signalCount source} bytes"⟩] := by
  -- The inputs report once, when all of them have been read.
  rw [Encode.publicInputs, Traced.result_bind, bind_eq_ok_iff] at encoded
  obtain ⟨inputs, read, _⟩ := encoded
  rw [Traced.result_lift] at read
  obtain ⟨count, size⟩ := length_signals read
  rw [Encode.publicInputs, read, Traced.lift_ok_bind, count, size]
  rfl

/-- Keys with as many points are encoded in the same steps. -/
theorem keySteps_eq {source other : Value} (same : rowCount source = rowCount other) :
    keySteps source = keySteps other := by
  -- The row matters for the number of steps only.
  have rows : rowSteps source = rowSteps other :=
    congrArg (fun count => (List.range count).map Step.rowPoint) same
  rw [keySteps, keySteps, rows]

/-- Public inputs log their number. -/
theorem logsCount (runtime : Command.Runtime) (source : Value) : LogsCount runtime source := by
  have told : ∀ count size : Nat, s!"{count} signals, {size} bytes" ≠ "" := by
    intro count size empty
    have length := congrArg (fun text => text.toList.length) empty
    simp at length
  have done : ∀ source text, (Encode.publicInputs source).result = .ok text →
      log runtime (Encode.publicInputs source) = [debugLine "public" "encodePublic"
        s!"{signalCount source} signals, {4 + 32 * signalCount source} bytes"] := by
    intro source text encoded
    rw [log_eq, events_publicInputs encoded, ← debug_text (told _ _)]
    rfl
  refine ⟨done source, ?_, ?_⟩
  · intro failure failed
    -- The inputs are read before anything is reported.
    rw [log_eq, Encode.publicInputs] at *
    cases read : PublicInputs.ofValue source with
    | ok inputs =>
      rw [read] at failed
      cases failed
    | error other =>
      rw [Traced.lift_error_bind]
      rfl
  · intro other text otherText encoded otherEncoded same
    rw [done source text encoded, done other otherText otherEncoded, same]

/--
The log of the encoders is made of infinities and counts.

Where the logger is set up at the lowest level, proofs and verification keys log their points at infinity and one size,
and public inputs log their number.
-/
theorem encoders_log_infinities (runtime : Command.Runtime) (source : Value) :
    LogsInfinities runtime Encode.proof (fun _ => proofSteps) (fun _ => 0)
        (fun _ => debugLine "proof" "encodeProof" "256 bytes") source ∧
      LogsInfinities runtime Encode.key keySteps rowCount
        (fun count => debugLine "vk" "encodeVk" s!"{452 + 64 * count} bytes") source ∧
      LogsCount runtime source := by
  -- Proofs and keys differ in their steps and in the size that comes last.
  refine ⟨?_, ?_, logsCount runtime source⟩
  · refine logsInfinities_of_outline runtime (fun content => ⟨"proof", "encodeProof", s!"{content.length} bytes"⟩)
      outline_proofBytes ?_ (fun _ _ _ => rfl) source
    intro source content encoded
    rw [length_proofBytes encoded]
    exact debug_text (bytes_text_ne_empty 256)
  · refine logsInfinities_of_outline runtime (fun content => ⟨"vk", "encodeVk", s!"{content.length} bytes"⟩)
      outline_keyBytes ?_ (fun _ _ => keySteps_eq) source
    intro source content encoded
    rw [length_keyBytes encoded]
    exact debug_text (bytes_text_ne_empty _)

/-- A proof with a point at infinity and small coordinates. -/
def lowProof : Value :=
  .object [
    ("pi_a", .list [.int 5, .int 6, .int 0]),
    ("pi_b", .list [.list [.int 1, .int 2], .list [.int 3, .int 4], .list [.int 1, .int 0]]),
    ("pi_c", .list [.int 1, .int 2, .int 1])]

/-- A proof with other coordinates. -/
def highProof : Value :=
  .object [
    ("pi_a", .list [.null, .text "none", .text "0x0"]),
    ("pi_b", .list [.list [.int 901, .int 902], .list [.int 903, .int 904], .list [.int 1, .int 0]]),
    ("pi_c", .list [.int 905, .int 906, .int 1])]

/-- Two proofs with their first point at infinity leave one log, and their coordinates do not show. -/
theorem encoders_log_infinities_low_and_high :
    log (.still default) (Encode.proof lowProof) =
        ["DEBUG [pi_a] [encode_g1]]: point at infinity", "DEBUG [proof] [encodeProof]]: 256 bytes"] ∧
      log (.still default) (Encode.proof lowProof) = log (.still default) (Encode.proof highProof) := by
  have low := (encoders_log_infinities (.still default) lowProof).1
  have encoded : (Encode.proof lowProof).result = .ok _ := rfl
  have otherEncoded : (Encode.proof highProof).result = .ok _ := rfl
  -- The same step meets infinity in both, and their sizes are equal.
  have alike : ∀ step ∈ proofSteps, step.isInfinite lowProof = step.isInfinite highProof := by decide
  exact ⟨low.done _ encoded, low.blind _ _ _ encoded otherEncoded rfl alike⟩

end Encode

end ProofWire
