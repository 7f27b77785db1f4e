import ProofWire.Command.Host
import ProofWire.Trace

/-! Consoles: what a command leaves behind on its streams. -/

namespace ProofWire.Command

/-- The end of a command: its status and the texts on its streams. -/
structure Outcome where
  status : Nat
  output : String
  errors : String
deriving DecidableEq

/-- The state of logging, what has been written to the error stream, and how many notes there were. -/
structure Console where
  runtime : Runtime
  logging : Log.State
  written : List String
  notes : Nat

namespace Console

/-- Nothing is set up and nothing is written. -/
def initial (runtime : Runtime) : Console :=
  ⟨runtime, Log.State.initial, [], 0⟩

/-- The logger of the encoders, on which every setup falls back. -/
def encoderLogger : Log.LoggerName :=
  .named "Encoder Logger"

/-- The level at which encoders tell what they notice. -/
def debugLevel : String := "debug"

/-- The level at which commands tell why they fail. -/
def errorLevel : String := "error"

/-- Logs an event at a level. -/
def log (console : Console) (name : Log.LoggerName) (level : String) (event : Event) : Console :=
  let step := console.logging.log name (event.note level) (console.runtime.clock console.notes)
  { console with
    logging := step.state
    written := console.written ++ step.output.stream.map (Log.Notice.text console.runtime.trace)
    notes := console.notes + 1 }

/-- Reports what an encoder noticed. -/
def trace (console : Console) (events : List Event) : Console :=
  events.foldl (fun console event => console.log encoderLogger debugLevel event) console

/-- Sets up a logger. -/
def setup (console : Console) (setup : Log.State.Setup) :
    Console × Except Failure Log.LoggerName :=
  let step := console.logging.setup setup
  ({ console with logging := step.state }, step.result)

/-- The end of a command. -/
def close (console : Console) (status : Nat) (output : String) : Outcome :=
  ⟨status, output, String.join console.written⟩

/-- Reports an error of a component and ends the command. -/
def fail (console : Console) (name : Log.LoggerName) (component message : String) : Outcome :=
  (console.log name errorLevel ⟨component, "main", message⟩).close 1 ""

end Console

/-- A command that is set up: its console, its logger and its settings. -/
structure Session where
  console : Console
  logger : Log.LoggerName
  settings : Settings

namespace Session

/-- The setup that settings ask for. -/
def setupOf (settings : Settings) : Except Failure Log.State.Setup := do
  let name ← settings.loggerName
  let level ← settings.loggerLevel
  let format ← settings.loggerFormat
  return ⟨false, name, level, format⟩

/-- What the settings of a host ask for; `check` says what else they have to hold. -/
def plan (host : Host) (check : Settings → Except Failure Unit) :
    Except Failure (Settings × Log.State.Setup) := do
  let settings ← host.settings
  check settings
  let setup ← setupOf settings
  return (settings, setup)

/-- Ends a command whose settings are refused; other failures end it without an outcome. -/
def refuse (console : Console) (component : String) (failure : Failure) : Except Failure Outcome :=
  if failure.isRejection then do
    let (console, result) := console.setup Log.State.Setup.standard
    let name ← result
    return console.fail name component ("invalid configuration: " ++ failure.message)
  else .error failure

/-- Runs a command after it is set up by its settings. -/
def run (host : Host) (component : String) (check : Settings → Except Failure Unit)
    (body : Session → Except Failure Outcome) : Except Failure Outcome :=
  let console := Console.initial host.runtime
  match plan host check with
  | .error failure => refuse console component failure
  | .ok (settings, setup) =>
    match console.setup setup with
    | (console, .ok name) => body ⟨console, name, settings⟩
    | (console, .error failure) => refuse console component failure

/-- Reports an error and ends the command. -/
def fail (session : Session) (component message : String) : Outcome :=
  session.console.fail session.logger component message

end Session

end ProofWire.Command
