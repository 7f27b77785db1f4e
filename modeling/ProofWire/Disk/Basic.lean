import ProofWire.Disk.Path
import ProofWire.Json.Reader

/-! Disks: what paths hold, and files read as text or as JSON. -/

namespace ProofWire

/-- A disk answers every path without null characters: what opening it gives, and whether it leads to a file of the
ordinary kind. -/
structure Disk where
  contents : String → Except Refusal Bytes
  isOrdinary : String → Except Refusal Bool

namespace Disk

/-- A path holds a null character, which no name can. -/
def hasNull (path : String) : Bool :=
  path.toList.contains (Char.ofNat 0)

/-- The bytes of a file. -/
def bytes (disk : Disk) (path : String) : Except Failure Bytes :=
  if hasNull path then .error .nullInPath
  else
    match disk.contents path with
    | .ok content => .ok content
    | .error refusal => .error (.refused refusal path)

/-- The text of a file, with line feeds for line ends of every kind. -/
def text (disk : Disk) (path : String) : Except Failure (List Char) := do
  let content ← disk.bytes path
  match Text.decodeUtf8 content with
  | .ok text => return Text.unifyNewlines text
  | .error fault => .error (.notText fault)

/-- The value of a JSON file, read to some depth. -/
def json (disk : Disk) (depth : Nat) (path : String) : Except Failure Value := do
  let text ← disk.text path
  Json.read depth text

/-- A path leads to an ordinary file, which may still not open. Where nothing is found the answer is no; other refusals
are failures and no answer. -/
def isFile (disk : Disk) (path : String) : Except Failure Bool :=
  if hasNull path then .ok false
  else
    match disk.isOrdinary path with
    | .ok ordinary => .ok ordinary
    | .error refusal => if refusal.isAbsence then .ok false else .error (.refused refusal path)

/-- The path of the device that reads as empty. -/
def nullDevice : String := "/dev/null"

/-- Where a path leads on the way: a directory of the disk, the top of the system, another directory outside of the
disk, a file, or the null device. -/
inductive Place where
  | directory (parts : List (List Char))
  | top
  | outside
  | file (content : Bytes)
  | device

/-- The directories that every system has at its top. -/
def systemDirectories : List String :=
  ["bin", "boot", "dev", "etc", "home", "lib", "media", "mnt", "opt", "proc", "root", "run", "sbin", "srv",
    "sys", "tmp", "usr", "var"]

/-- The longest name of a file. -/
def maxName : Nat := 255

/-- The longest path. -/
def maxPath : Nat := 4095

/-- The bytes of a text. -/
def size (text : List Char) : Nat :=
  (String.ofList text).utf8ByteSize

/-- The place of a name in a directory. -/
def child (files : List (String × Bytes)) (parts : List (List Char)) (name : List Char) :
    Except Refusal Place :=
  let path := ['/'].intercalate (parts ++ [name])
  match files.lookup (String.ofList path) with
  | some content => .ok (.file content)
  | none =>
    if files.any fun file => (path ++ ['/']).isPrefixOf file.1.toList then
      .ok (.directory (parts ++ [name]))
    else .error .notFound

/-- One step on the way. -/
def walk (files : List (String × Bytes)) (place : Place) (part : List Char) : Except Refusal Place :=
  match place with
  | .file _ | .device => .error .notDirectory
  | .top =>
    if Path.isRedundant part || part == ['.', '.'] then .ok .top
    else if maxName < size part then .error .nameTooLong
    else if systemDirectories.contains (String.ofList part) then .ok .outside
    else .error .notFound
  | .outside =>
    if Path.isRedundant part || part == ['.', '.'] then .ok .outside
    else if maxName < size part then .error .nameTooLong
    else .error .notFound
  | .directory parts =>
    if Path.isRedundant part then .ok place
    else if part == ['.', '.'] then
      .ok (if parts.isEmpty then .outside else .directory parts.dropLast)
    else if maxName < size part then .error .nameTooLong
    else child files parts part

/-- The place at the end of a path. -/
def follow (files : List (String × Bytes)) (path : String) : Except Refusal Place :=
  let text := path.toList
  if text.isEmpty then .error .notFound
  else if maxPath < size text then .error .nameTooLong
  else if path = nullDevice then .ok .device
  else
    let start := if text.head? = some '/' then Place.top else .directory []
    (Path.parts text).foldlM (walk files) start

/-- What a place holds; a directory does not open. -/
def Place.content : Place → Except Refusal Bytes
  | .file content => .ok content
  | .device => .ok []
  | _ => .error .isDirectory

/-- Files are of the ordinary kind. -/
def Place.isOrdinary : Place → Bool
  | .file _ => true
  | _ => false

/-- The disk whose current directory holds the given files and nothing else; there is a null device, too. -/
def ofFiles (files : List (String × Bytes)) : Disk where
  contents path := do
    let place ← follow files path
    place.content
  isOrdinary path := (follow files path).map Place.isOrdinary

end Disk

end ProofWire
