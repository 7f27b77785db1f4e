import ProofWire.Artifact.Decode
import ProofWire.Command.Console
import ProofWire.CommandLine.Arguments
import ProofWire.Comparison.Report

/-! The command that compares encoded artifacts with the bytes of a reference. -/

namespace ProofWire.Command.Compare

open CommandLine

/-- The name of the command. -/
def program : String := "compat.compare"

/-- The component that reports its errors. -/
def component : String := "compat"

/-- An option that takes a path. -/
def pathOption (name : String) (isRequired : Bool) : OptionRule :=
  ⟨name, true, isRequired⟩

/-- Files for each artifact and for its reference, those of the verification key as one likes; and a flag for JSON. -/
def grammar : Grammar :=
  ⟨[pathOption "--proof" true, pathOption "--public" true, pathOption "--ref-proof" true,
    pathOption "--ref-public" true, pathOption "--vkey" false, pathOption "--ref-vk" false,
    ⟨"--json", false, false⟩], []⟩

/-- What the command is asked to do; an option given without a text names no file. -/
structure Request where
  proof : Option String
  publicInputs : Option String
  referenceProof : Option String
  referencePublic : Option String
  key : Option String
  referenceKey : Option String
  asJson : Bool

/-- The request of a command line; a verification key and its reference are given together. -/
def Request.ofTexts (edition : Edition) (texts : List String) : Except Stop Request := do
  let arguments ← Arguments.ofTexts edition grammar texts
  if arguments.isGiven "--vkey" == arguments.isGiven "--ref-vk" then
    return {
      proof := arguments.text? "--proof"
      publicInputs := arguments.text? "--public"
      referenceProof := arguments.text? "--ref-proof"
      referencePublic := arguments.text? "--ref-public"
      key := arguments.text? "--vkey"
      referenceKey := arguments.text? "--ref-vk"
      asJson := arguments.flags.contains "--json" }
  else .error (.misuse (.unpaired "--vkey" "--ref-vk"))

/-- The bytes of a file of hexadecimal text, which has to be named. -/
def readHex (disk : Disk) (path : Option String) : Except Failure Bytes := do
  let path ← required path
  let text ← disk.text (Path.normal path)
  Decode.hexText (String.ofList text)

/-- A path that is given and not empty. -/
def present (path : Option String) : Option String :=
  path.filter fun path => !path.isEmpty

/-- The artifacts and the reference bytes, read in order. -/
def read (host : Host) (request : Request) : Except Failure Report.Subjects := do
  let proof ← host.readJson request.proof
  let publicInputs ← host.readJson request.publicInputs
  let referenceProof ← readHex host.disk request.referenceProof
  let referencePublic ← readHex host.disk request.referencePublic
  let key ← match present request.key with
    | some path => host.json path
    | none => .ok .null
  let referenceKey ← match present request.referenceKey with
    | some path => (readHex host.disk (some path)).map some
    | none => .ok none
  return ⟨proof, publicInputs, key, referenceProof, referencePublic, referenceKey⟩

/-- Ends the command when a file or an artifact is refused. -/
def failWith (session : Session) (console : Console) (failure : Failure) : Except Failure Outcome :=
  match failure with
  | .refused _ _ | .notJson _ | .classified _ =>
    .ok (console.fail session.logger component failure.message)
  | other => .error other

/-- The text of a report. -/
def Request.print (request : Request) (report : Report) : Except Failure String :=
  if request.asJson then .ok (report.document.render ++ "\n") else report.summary

/-- Compares what the files hold; the status tells whether all artifacts match. -/
def write (session : Session) (request : Request) (subjects : Report.Subjects) :
    Except Failure Outcome := do
  let algorithms ← session.settings.algorithms
  let report := Report.build subjects (algorithms.map fun algorithm => .text algorithm.name)
  let console := session.console.trace report.events
  match report.result with
  | .error failure => failWith session console failure
  | .ok report => do
    let text ← request.print report
    return console.close (if report.allMatch then 0 else 1) text

/-- Runs the command on a host. -/
def run (host : Host) (texts : List String) : Except Failure Outcome :=
  match Request.ofTexts host.edition texts with
  | .error .help => .ok ⟨0, "", ""⟩
  | .error (.misuse problem) => .ok ⟨2, "", s!"{program}: error: {problem.message}"⟩
  | .ok request =>
    Session.run host component (fun settings => settings.algorithms.map fun _ => ()) fun session =>
      match read host request with
      | .ok subjects => write session request subjects
      | .error failure => failWith session session.console failure

end ProofWire.Command.Compare
