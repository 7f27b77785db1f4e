import ProofWire.Command.Compare
import ProofWire.Command.Encode

/-! The command line: reads the files that the arguments can name and hands them to a command. -/

namespace ProofWire.Main

/-- The variable that names the file of settings. -/
def settingsVariable : String := "BN254_ENCODER_CONFIG"

/-- The paths that an argument can name: itself, or what follows an equals sign in it. -/
def pathsOf (argument : String) : List String :=
  let named := argument :: (CommandLine.splitValue argument.toList).2.toList
  named ++ named.map Path.normal

/-- The refusal that an error of the system stands for. -/
def refusalOf : IO.Error → Refusal
  | .inappropriateType _ _ details =>
    if details == "not a directory" then .notDirectory else .isDirectory
  | .invalidArgument _ _ _ => .nameTooLong
  | .permissionDenied _ _ _ => .denied
  | _ => .notFound

/-- What the system answers, or why it refuses. -/
def attempt (ask : IO α) : IO (Except Refusal α) := do
  try
    let answer ← ask
    return .ok answer
  catch problem => return .error (refusalOf problem)

/-- The content of a path, and whether it leads to an ordinary file. -/
def lookUp (path : String) : IO (Except Refusal Bytes × Except Refusal Bool) := do
  let content ← attempt do
    let content ← IO.FS.readBinFile path
    return content.toList
  let ordinary ← attempt do
    let place ← IO.FS.realPath path
    let found ← place.metadata
    return found.type == .file
  return (content, ordinary)

/-- The disk that holds the given paths and nothing else. -/
def diskOf (paths : List String) : IO Disk := do
  let places ← paths.mapM fun path => do return (path, ← lookUp path)
  return {
    contents path := ((places.lookup path).map Prod.fst).getD (.error .notFound)
    isOrdinary path := ((places.lookup path).map Prod.snd).getD (.error .notFound) }

/-- The depth to which JSON is read. -/
def depth : Nat := 990

/-- The moment of a text for the time, in which the clock of the host shows so many thousandths of seconds. -/
def momentOf (time : String) (milliseconds : Nat) : Log.Moment :=
  { time := time
    created := .ofDecimal false milliseconds (-3)
    msecs := .ofDecimal false (milliseconds % 1000) 0
    relativeCreated := .ofDecimal false 0 0
    folder := "."
    thread := 0
    process := 0 }

/-- The word by which the first argument asks for the comparison. -/
def compareWord : String := "compare"

/-- The host of the program. All that it logs is of the moment in which it starts. -/
def hostOf (texts : List String) : IO Command.Host := do
  let environment ← IO.getEnv settingsVariable
  let disk ← diskOf ((environment.toList ++ texts).flatMap pathsOf)
  let milliseconds ← IO.monoMsNow
  return .still disk environment depth (momentOf (toString milliseconds) milliseconds)

/-- Runs a command and writes what it leaves behind. -/
def perform (run : Command.Host → List String → Except Failure Command.Outcome) (texts : List String) :
    IO UInt32 := do
  let host ← hostOf texts
  match run host texts with
  | .ok outcome =>
    IO.print outcome.output
    IO.eprint outcome.errors
    if outcome.status == 2 then IO.eprintln ""
    return outcome.status.toUInt32
  | .error failure =>
    IO.eprintln failure.message
    return 1

end ProofWire.Main

/-- Encodes an artifact; with the word `compare` in front it compares artifacts. -/
def main (arguments : List String) : IO UInt32 :=
  match arguments with
  | [] => ProofWire.Main.perform ProofWire.Command.Encode.run []
  | first :: rest =>
    if first == ProofWire.Main.compareWord then
      ProofWire.Main.perform ProofWire.Command.Compare.run rest
    else ProofWire.Main.perform ProofWire.Command.Encode.run (first :: rest)
