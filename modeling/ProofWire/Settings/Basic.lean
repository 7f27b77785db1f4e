import ProofWire.Disk.Basic
import ProofWire.Hash.Basic
import ProofWire.Settings.Section

/-! Settings: defaults, and a file that overrides them entry by entry. -/

namespace ProofWire

/-- Sections by name. -/
abbrev Config := List (String × Section)

namespace Config

/-- The settings without a file. -/
def defaults : Config := [
  ("logger", [
    (.text "name", .text "Encoder Logger"),
    (.text "level", .text "INFO"),
    (.text "format", .text "[[%(asctime)s] %(message)s")]),
  ("compat", [
    (.text "hash_algos", .list [.text Algorithm.sha256.name, .text Algorithm.keccak.name])])]

/-- The value of an entry. -/
def get? (config : Config) (name key : String) : Option Value := do
  let entries ← config.lookup name
  entries.get? (.text key)

/-- Sets a section: a known one keeps its place, a new one comes last. -/
def insert : Config → String → Section → Config
  | [], name, entries => [(name, entries)]
  | first :: rest, name, entries =>
    if first.1 = name then (name, entries) :: rest else first :: insert rest name entries

/-- Updates one section by what a file gives for it. -/
def mergeSection (config : Config) (given : String × Value) : Except Failure Config := do
  let entries ← Section.update ((config.lookup given.1).getD []) given.2
  return config.insert given.1 entries

/-- Updates the sections that a file names; the file has to be an object. -/
def merge (config : Config) : Value → Except Failure Config
  | .object given => given.foldlM mergeSection config
  | _ => .error .noSuchOperation

end Config

/-- Where settings come from: the defaults, or a file at a path. -/
inductive SettingsSource where
  | standard
  | file (path : String)

/-- The text of a source. -/
def SettingsSource.text : SettingsSource → String
  | .standard => "<default>"
  | .file path => path

/-- Settings with the place they come from. -/
structure Settings where
  source : SettingsSource
  config : Config

namespace Settings

/-- A path given by the caller wins over one given by the environment, and an empty one there counts as absent. -/
def chooseSource (environment path : Option String) : SettingsSource :=
  match path, environment with
  | some path, _ => .file (Path.normal path)
  | none, some path => if path.isEmpty then .standard else .file (Path.normal path)
  | none, none => .standard

/-- The settings of a source, read to some depth; a path that leads to no file gives the defaults. -/
def load (disk : Disk) (depth : Nat) (source : SettingsSource) : Except Failure Settings :=
  match source with
  | .standard => .ok ⟨source, .defaults⟩
  | .file path => do
    let found ← disk.isFile path
    if found then
      let given ← disk.json depth path
      let config ← Config.defaults.merge given
      return ⟨source, config⟩
    else return ⟨source, .defaults⟩

/-- An entry that has to be there. -/
def entry (settings : Settings) (name key : String) : Except Failure Value :=
  match settings.config.get? name key with
  | some value => .ok value
  | none => .error .missingKey

/-- The name of the logger. -/
def loggerName (settings : Settings) : Except Failure Value :=
  settings.entry "logger" "name"

/-- The level of the logger. -/
def loggerLevel (settings : Settings) : Except Failure Value :=
  settings.entry "logger" "level"

/-- The format of records. -/
def loggerFormat (settings : Settings) : Except Failure Value :=
  settings.entry "logger" "format"

/-- The texts of values that all have to be texts. -/
def texts : List Value → Except Failure (List String)
  | [] => .ok []
  | .text text :: rest => do
    let others ← texts rest
    return text :: others
  | _ :: _ => .error .wrongType

/-- The digest algorithms, every one of which has to be known. -/
def algorithms (settings : Settings) : Except Failure (List Algorithm) := do
  let named ← settings.entry "compat" "hash_algos"
  match Section.elementItems? named with
  | none => .error .wrongType
  | some names =>
    let unknown := names.filter fun name => (Algorithm.ofValue? name).isNone
    if unknown.isEmpty then return names.filterMap Algorithm.ofValue?
    else do
      let unknown ← texts unknown
      .error (.unsupportedAlgorithms settings.source.text unknown)

end Settings

end ProofWire
