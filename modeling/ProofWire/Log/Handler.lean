import ProofWire.Log.Format

/-! Handlers: where records go, and what is written there. -/

namespace ProofWire.Log

/-- A destination of records. -/
inductive Handler where
  /-- The error stream. -/
  | stream (format : Format)
  /-- The log file. -/
  | file (format : Format)
  /-- The queue. -/
  | queue
  /-- A text, which takes no records. -/
  | text (content : String)
deriving DecidableEq

/-- What is written to the error stream. -/
inductive Notice where
  /-- The text of a record, which ends its line. -/
  | line (text : String)
  /-- The report that a format does not show a record. -/
  | mishap (format : Format) (record : Record)

/-- The text of a notice. A mishap is told with the way that led to it, which the runtime knows, and with what the record
was made from. -/
def Notice.text (trace : Format → Record → String) : Notice → String
  | .line text => text
  | .mishap format record =>
    "--- Logging error ---\n" ++ trace format record ++
      s!"Message: {Text.quoted record.message}\nArguments: {record.arguments}\n"

/-- A line is told as it is. -/
@[simp] theorem Notice.text_line (trace : Format → Record → String) (text : String) :
    (Notice.line text).text trace = text :=
  rfl

/-- What reaches each destination, in order. -/
structure Output where
  stream : List Notice
  file : List String
  queued : List Record

namespace Output

/-- Nothing is written. -/
def nothing : Output :=
  ⟨[], [], []⟩

/-- One output after another. -/
def append (first second : Output) : Output :=
  ⟨first.stream ++ second.stream, first.file ++ second.file, first.queued ++ second.queued⟩

instance : Append Output := ⟨append⟩

end Output

namespace Handler

/-- A line of a format; a record that the format cannot show leaves no line. -/
def lines (format : Format) (record : Record) : List String :=
  ((format.render? record).map (· ++ "\n")).toList

/-- A record that a format cannot show is told of. -/
def mishaps (format : Format) (record : Record) : List Notice :=
  if (format.render? record).isSome then [] else [.mishap format record]

/-- What a format makes of a record on the error stream: its line, or the report that there is none. -/
def notices (format : Format) (record : Record) : List Notice :=
  (lines format record).map .line ++ mishaps format record

/-- What a handler does with a record; a text fails. Mishaps are told on the error stream, those of the file too. -/
def emit? (record : Record) : Handler → Option Output
  | .stream format => some ⟨notices format record, [], []⟩
  | .file format => some ⟨mishaps format record, lines format record, []⟩
  | .queue => some ⟨[], [], [record.queued]⟩
  | .text _ => none

/-- The record as a handler leaves it: its time is worked out where it is asked for, and its cause where its text can be
made. -/
def leave (record : Record) : Handler → Record
  | .stream format | .file format =>
    let record := record.timed format.asksTime
    if (format.render? record).isSome then record.written else record
  | .queue => record.written
  | .text _ => record

/-- The handler writes to the error stream. -/
def isStream : Handler → Bool
  | .stream _ => true
  | _ => false

end Handler

/-- A record passes handlers in order, up to the first one that fails. -/
def deliver (record : Record) : List Handler → Output × Except Failure Unit
  | [] => (Output.nothing, .ok ())
  | handler :: rest =>
    match handler.emit? record with
    | none => (Output.nothing, .error .noSuchOperation)
    | some output =>
      let (later, result) := deliver (handler.leave record) rest
      (output ++ later, result)

/-- Records that no handler takes show their message on the error stream from the rank of a warning on. -/
def lastResort (record : Record) : Output :=
  if Severity.warning.rank ≤ record.severity.rank then
    ⟨Handler.notices Format.message record, [], []⟩
  else Output.nothing

end ProofWire.Log
