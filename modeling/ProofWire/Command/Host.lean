import ProofWire.CommandLine.Token
import ProofWire.Log.State
import ProofWire.Settings.Basic

/-! Hosts: what a command finds around it when it starts. -/

namespace ProofWire.Command

/-- What the runtime adds to the log on its own. -/
structure Runtime where
  /-- The moments in which notes are logged, in order. -/
  clock : Nat → Log.Moment
  /-- The way that led to a record that a format does not show. -/
  trace : Log.Format → Log.Record → String

/-- A runtime in which all is logged at one moment and no way is known. -/
def Runtime.still (moment : Log.Moment) : Runtime :=
  ⟨fun _ => moment, fun _ _ => ""⟩

/-- What a command finds around it. -/
structure Host where
  disk : Disk
  /-- The variable that names a file of settings. -/
  environment : Option String
  /-- The depth to which settings are read. -/
  settingsDepth : Nat
  /-- The depth to which inputs are read. -/
  inputDepth : Nat
  edition : CommandLine.Edition
  runtime : Runtime

/-- The path of a file that has to be named. -/
def required (path : Option String) : Except Failure String :=
  match path with
  | some path => .ok path
  | none => .error .wrongType

namespace Host

/-- The host of one moment, which reads all files to one depth and keeps all that a command line gives. -/
def still (disk : Disk) (environment : Option String) (depth : Nat) (moment : Log.Moment) : Host :=
  ⟨disk, environment, depth, depth, ⟨true, true⟩, .still moment⟩

/-- Where the settings come from. -/
def source (host : Host) : SettingsSource :=
  Settings.chooseSource host.environment none

/-- The settings of commands. -/
def settings (host : Host) : Except Failure Settings :=
  Settings.load host.disk host.settingsDepth host.source

/-- The value of an input. -/
def json (host : Host) (path : String) : Except Failure Value :=
  host.disk.json host.inputDepth path

/-- The value of an input, which has to be named. -/
def readJson (host : Host) (path : Option String) : Except Failure Value := do
  let path ← required path
  host.json path

end Host

end ProofWire.Command
