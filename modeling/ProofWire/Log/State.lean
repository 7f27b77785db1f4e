import ProofWire.Log.Note
import ProofWire.Log.Registry
import ProofWire.Log.Verb

/-! The state of logging: loggers in a hierarchy and one queue. -/

namespace ProofWire.Log

/-- Loggers, the answers so far to whether a logger takes reports of a severity, and the queue, in which an empty place
ends a drain. -/
structure State where
  registry : Registry
  decided : List ((LoggerName × Severity) × Bool)
  queue : List (Option Record)

/-- What a step leaves behind: the state, what it put out, and its end. -/
structure Step (α : Type) where
  state : State
  output : Output
  result : Except Failure α

namespace State

/-- At the start no name is in use. -/
def initial : State :=
  ⟨Registry.initial, [], []⟩

/-- One logger. -/
def logger (state : State) (name : LoggerName) : Logger :=
  state.registry.logger name

/-- A step that puts nothing out. -/
def quiet (state : State) (result : Except Failure α) : Step α :=
  ⟨state, Output.nothing, result⟩

/-- Changes one logger. -/
def change (state : State) (name : LoggerName) (next : Logger → Logger) : State :=
  { state with registry := state.registry.change name next }

/-- Sets the level of a logger; all questions about severities are open again. -/
def setLevel (state : State) (name : LoggerName) (rank : Nat) : State :=
  { state.change name (fun logger => { logger with level := rank }) with decided := [] }

/-- Attaches a handler after those that are there, unless it is one of them. -/
def attach (state : State) (name : LoggerName) (handler : Handler) : State :=
  state.change name fun logger =>
    if logger.handlers.contains handler then logger
    else { logger with handlers := logger.handlers ++ [handler] }

/-- Takes a name into use. -/
def use (state : State) (name : LoggerName) : Step Unit :=
  let (registry, result) := state.registry.use name
  quiet { state with registry := registry } result

/-- A logger takes reports of a severity whose rank reaches the level that counts. The answer stands until some level is
set. -/
def decide (state : State) (name : LoggerName) (severity : Severity) : State × Bool :=
  match state.decided.lookup (name, severity) with
  | some answer => (state, answer)
  | none =>
    let answer : Bool := state.registry.effectiveLevel name ≤ severity.rank
    ({ state with decided := ((name, severity), answer) :: state.decided }, answer)

/-- The queue takes records in. -/
def enqueue (state : State) (records : List Record) : State :=
  { state with queue := state.queue ++ records.map some }

/-- Reports a message at a moment; a logger with filters fails when it takes it. -/
def report (state : State) (name : LoggerName) (severity : Severity) (addsCause : Bool) (message : String)
    (moment : Moment) : Step Unit :=
  let (state, taken) := state.decide name severity
  if !taken then state.quiet (.ok ())
  else if !(state.logger name).filters.isEmpty then state.quiet (.error .wrongType)
  else
    let record := Record.made (state.logger name).title severity message moment addsCause
    let (output, result) := state.registry.publish name record
    ⟨state.enqueue output.queued, output, result⟩

/-- Starts a logger over: nothing is set for it, and it is below no other one. The root only loses its filters, since it
takes the message for a level. -/
def restart (state : State) (name : LoggerName) (message : String) : Step Unit :=
  match name with
  | .root =>
    (state.change name fun logger => { logger with filters := [] }).quiet (.error (.unknownLevel message))
  | .named _ =>
    let state := state.change name fun _ => Logger.bare message
    quiet { state with decided := state.decided.filter fun entry => entry.1.1 != name } (.ok ())

/-- The name of a logger below another one. -/
def childName (state : State) (name : LoggerName) (part : String) : LoggerName :=
  match name with
  | .root => .named part
  | .named _ => .named ((state.logger name).title ++ "." ++ part)

/-- What a logger does with a message. -/
def perform (state : State) (name : LoggerName) (message : String) (moment : Moment) : Verb → Step Unit
  | .report severity addsCause => state.report name severity addsCause message moment
  | .ignore => state.quiet (.ok ())
  | .relevel => state.quiet (.error (.unknownLevel message))
  | .attach => (state.attach name (.text message)).quiet (.ok ())
  | .detach =>
    (state.change name fun logger =>
      { logger with handlers := logger.handlers.erase (.text message) }).quiet (.ok ())
  | .addFilter =>
    (state.change name fun logger =>
      { logger with filters := logger.filters.insert message }).quiet (.ok ())
  | .removeFilter =>
    (state.change name fun logger =>
      { logger with filters := logger.filters.erase message }).quiet (.ok ())
  | .judge =>
    state.quiet (if (state.logger name).filters.isEmpty then .ok () else .error .wrongType)
  | .handle =>
    state.quiet (.error
      (if (state.logger name).filters.isEmpty then .noSuchOperation else .wrongType))
  | .another => state.quiet (if name = .root then .error (.unknownLevel message) else .ok ())
  | .child => state.use (state.childName name message)
  | .restart => state.restart name message
  | .unfit => state.quiet (.error .wrongType)
  | .search => state.quiet (.error .noSuchOperation)

/-- Logs a note: takes a name into use, looks up what its logger does at the level, and lets it do that with the text. -/
def log (state : State) (name : LoggerName) (note : Note) (moment : Moment) : Step Unit :=
  match state.use name with
  | ⟨state, _, .error failure⟩ => state.quiet (.error failure)
  | ⟨state, _, .ok ()⟩ =>
    -- The text is not made where the level stands for nothing.
    match Verb.ofLevel note.level with
    | .error failure => state.quiet (.error failure)
    | .ok verb =>
      match note.text with
      | .error failure => state.quiet (.error failure)
      | .ok message => state.perform name message moment verb

/-- What a logger is set up with. -/
structure Setup where
  usesQueue : Bool
  name : Value
  level : Value
  format : Value

/-- The setup that nobody asked anything else of. -/
def Setup.standard : Setup :=
  ⟨false, .text "Encoder Logger", .text "INFO", .text Format.standard.text⟩

/-- Attaches the handler that a setup asks for; one of its kind is enough. -/
def attachOnce (state : State) (name : LoggerName) (setup : Setup) : Step LoggerName :=
  if setup.usesQueue then (state.attach name .queue).quiet (.ok name)
  else if (state.logger name).handlers.any Handler.isStream then state.quiet (.ok name)
  else
    match Format.ofValue setup.format with
    | .ok format => (state.attach name (.stream format)).quiet (.ok name)
    | .error failure => state.quiet (.error failure)

/-- Sets up a logger: its level first, then its handler. What precedes a failure stays done. -/
def setup (state : State) (setup : Setup) : Step LoggerName :=
  match LoggerName.ofValue setup.name with
  | .error failure => state.quiet (.error failure)
  | .ok name =>
    match state.use name with
    | ⟨state, _, .error failure⟩ => state.quiet (.error failure)
    | ⟨state, _, .ok ()⟩ =>
      match levelOfValue setup.level with
      | .error failure => state.quiet (.error failure)
      | .ok rank => (state.setLevel name rank).attachOnce name setup

/-- Puts an end mark into the queue. -/
def mark (state : State) : State :=
  { state with queue := state.queue ++ [none] }

/-- The logger that passes on what it drains. -/
def listener : LoggerName :=
  .named "listener"

/-- A logger that has filters fails on every record; else the record passes handlers. -/
def pass (logger : Logger) (handlers : List Handler) (record : Record) : Output × Except Failure Unit :=
  if logger.filters.isEmpty then deliver record handlers else (Output.nothing, .error .wrongType)

/-- Records are passed on up to the first end mark or failure; what follows is left. -/
def consume (next : Record → Output × Except Failure Unit) :
    List (Option Record) → Output × List (Option Record) × Except Failure Unit
  | [] => (Output.nothing, [], .ok ())
  | none :: rest => (Output.nothing, rest, .ok ())
  | some record :: rest =>
    match next record with
    | (output, .error failure) => (output, rest, .error failure)
    | (output, .ok ()) =>
      let (later, left, result) := consume next rest
      (output ++ later, left, result)

/-- Drains the queue up to an end mark through the listener, which has the file as a further handler for that time. A
record that goes back into the queue comes after all that is left there. -/
def drain (state : State) (format : Value) : Step Unit :=
  let state := state.mark
  match Format.ofValue format with
  | .error failure => state.quiet (.error failure)
  | .ok format =>
    match state.use listener with
    | ⟨state, _, .error failure⟩ => state.quiet (.error failure)
    | ⟨state, _, .ok ()⟩ =>
      let state := state.setLevel listener Severity.debug.rank
      let opened := state.attach listener (.file format)
      let next := pass (state.logger listener) (opened.registry.handlers listener)
      let (output, left, result) := consume next state.queue
      ⟨State.enqueue { state with queue := left } output.queued, output, result⟩

end State

end ProofWire.Log
