import ProofWire.Proofs.Log.Registry

/-! Loggers whose records go to one stream: each report is written there, or all reports of its severity are left. -/

namespace ProofWire.Log.State

variable {state : State} {name : LoggerName} {severity : Severity} {note : Note} {message : String}

/-- A note at a level that reports takes the name into use first. -/
theorem log_eq_report {addsCause : Bool} (moment : Moment) (taken : (state.registry.use name).2 = .ok ())
    (level : Verb.ofLevel note.level = .ok (.report severity addsCause)) (text : note.text = .ok message) :
    state.log name note moment =
      ({ state with registry := (state.registry.use name).1 } : State).report name severity addsCause message
        moment := by
  simp only [State.log, State.use, State.quiet, taken, level, text, State.perform]

/-- The record of a report, as a logger under its first name makes it. -/
def recordOf (name : LoggerName) (severity : Severity) (message : String) (moment : Moment) : Record :=
  .made name.text severity message moment false

/-- A logger either takes the reports of a severity, and then passes them to one stream, or leaves them all. -/
structure Streams (state : State) (name : LoggerName) (severity : Severity) (taken : Bool) (format : Format) :
    Prop where
  used : (state.registry.use name).2 = .ok ()
  level : Decidable.decide ((state.registry.use name).1.effectiveLevel name ≤ severity.rank) = taken
  agreed : ∀ answer, state.decided.lookup (name, severity) = some answer → answer = taken
  titled : (state.logger name).title = name.text
  unfiltered : (state.logger name).filters = []
  handlers : taken = true → (state.registry.use name).1.handlers name = [.stream format]

variable {taken : Bool} {format : Format}

/-- Once the name is in use, whatever keeps the loggers and the answers keeps the stream. -/
theorem Streams.transfer {next : State} (streams : state.Streams name severity taken format)
    (registry : next.registry = (state.registry.use name).1)
    (agreed : ∀ answer, next.decided.lookup (name, severity) = some answer → answer = taken) :
    next.Streams name severity taken format := by
  -- Taking the name into use once more does nothing.
  have again : next.registry.use name = ((state.registry.use name).1, .ok ()) := by
    rw [registry, Registry.use_again]
  have own := Registry.own_use state.registry name name
  refine ⟨by rw [again], by rw [again]; exact streams.level, agreed, ?_, ?_, by rw [again]; exact streams.handlers⟩
  · rw [State.logger, registry]
    exact (congrArg Logger.title own).trans streams.titled
  · rw [State.logger, registry]
    exact (congrArg Logger.filters own).trans streams.unfiltered

/-- A note is written if its severity is taken, and the next one fares in the same way. -/
theorem Streams.log (streams : state.Streams name severity taken format) (moment : Moment)
    (level : Verb.ofLevel note.level = .ok (.report severity false)) (text : note.text = .ok message) :
    (state.log name note moment).state.Streams name severity taken format ∧
      (state.log name note moment).output.stream =
        if taken then Handler.notices format (recordOf name severity message moment) else [] := by
  have own := Registry.own_use state.registry name name
  have titled : ((state.registry.use name).1.logger name).title = name.text :=
    (congrArg Logger.title own).trans streams.titled
  have unfiltered : ((state.registry.use name).1.logger name).filters = [] :=
    (congrArg Logger.filters own).trans streams.unfiltered
  -- The question whether the report is taken has one answer, now and later.
  obtain ⟨decided, answered, agreed⟩ :=
    decide_of_agreed { state with registry := (state.registry.use name).1 } streams.level streams.agreed
  rw [log_eq_report moment streams.used level text, State.report, answered]
  cases taken with
  | false => exact ⟨streams.transfer rfl agreed, rfl⟩
  | true =>
    -- The stream is the only handler, and it puts nothing into the queue.
    have handlers := streams.handlers rfl
    simp only [State.logger, unfiltered, titled, Registry.publish, handlers, deliver, Handler.emit?]
    exact ⟨streams.transfer rfl agreed, List.append_nil _⟩

end ProofWire.Log.State
