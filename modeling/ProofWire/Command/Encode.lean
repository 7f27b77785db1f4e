import ProofWire.Artifact.Encode
import ProofWire.Command.Console
import ProofWire.CommandLine.Arguments

/-! The command that encodes an artifact: the hexadecimal text goes to the output, what is wrong to the error
stream. -/

namespace ProofWire.Command.Encode

open CommandLine

/-- Which artifact a file holds. -/
inductive Mode where
  | proof
  | publicInputs
  | key
deriving DecidableEq

namespace Mode

/-- The name of a mode. -/
def name : Mode → String
  | .proof => "proof"
  | .publicInputs => "public"
  | .key => "vk"

/-- Every mode, in the order of their names. -/
def all : List Mode :=
  [.proof, .publicInputs, .key]

/-- The mode of a name. -/
def ofName? (name : String) : Option Mode :=
  all.find? fun mode => mode.name == name

/-- The hexadecimal text of an artifact. -/
def encode (mode : Mode) (source : Value) : Traced String :=
  match mode with
  | .proof => ProofWire.Encode.proof source
  | .publicInputs => ProofWire.Encode.publicInputs source
  | .key => ProofWire.Encode.key source

end Mode

/-- The name of the command. -/
def program : String := "encode-bn254"

/-- A mode and a file. -/
def grammar : Grammar :=
  ⟨[], [⟨"mode", Mode.all.map Mode.name⟩, ⟨"input", []⟩]⟩

/-- What the command is asked to do; an input without a path cannot be opened. -/
structure Request where
  mode : Mode
  input : Option String

/-- The request of a command line. -/
def Request.ofTexts (edition : Edition) (texts : List String) : Except Stop Request := do
  let arguments ← Arguments.ofTexts edition grammar texts
  let text := ((arguments.positionals.lookup "mode").join).getD ""
  match Mode.ofName? text with
  | some mode => .ok ⟨mode, (arguments.positionals.lookup "input").join⟩
  | none => .error (.misuse (.badChoice "mode" text (Mode.all.map Mode.name)))

/-- Ends the command when its input is no JSON file. -/
def failRead (session : Session) (request : Request) (failure : Failure) : Except Failure Outcome :=
  let path := request.input.getD ""
  match failure with
  | .refused _ _ | .notJson _ =>
    .ok (session.fail request.mode.name s!"failed to parse JSON at {path}: {failure.message}")
  | other => .error other

/-- Encodes the value of the input file. -/
def write (session : Session) (mode : Mode) (source : Value) : Except Failure Outcome :=
  let encoded := mode.encode source
  let console := session.console.trace encoded.events
  match encoded.result with
  | .ok text => .ok (console.close 0 text)
  | .error (.classified fault) =>
    .ok (console.fail session.logger mode.name
      (fault.kind.categoryOf.name ++ "/" ++ fault.kind.name ++ ": " ++ Failure.message (.classified fault)))
  | .error other => .error other

/-- Runs the command on a host. -/
def run (host : Host) (texts : List String) : Except Failure Outcome :=
  match Request.ofTexts host.edition texts with
  | .error .help => .ok ⟨0, "", ""⟩
  | .error (.misuse problem) => .ok ⟨2, "", s!"{program}: error: {problem.message}"⟩
  | .ok request =>
    Session.run host request.mode.name (fun _ => .ok ()) fun session =>
      match host.readJson request.input with
      | .ok source => write session request.mode source
      | .error failure => failRead session request failure

end ProofWire.Command.Encode
