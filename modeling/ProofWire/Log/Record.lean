import ProofWire.Binary64.Shortest
import ProofWire.Log.Severity
import ProofWire.Text.Quoted

/-! Records: one report, and what a format can show of it. -/

namespace ProofWire.Log

/-- What the runtime adds to a record: the time in its several forms, and where the program runs. -/
structure Moment where
  /-- The time as a text. -/
  time : String
  /-- The time in seconds. -/
  created : Binary64
  /-- The thousandths of the second. -/
  msecs : Binary64
  /-- The thousandths of seconds since the start of the program. -/
  relativeCreated : Binary64
  /-- The folder that the program is in. -/
  folder : String
  thread : UInt64
  process : UInt32
deriving DecidableEq, Inhabited

/-- One report. -/
structure Record where
  /-- The name that its logger shows. -/
  logger : String
  severity : Severity
  message : String
  moment : Moment
  /-- The report says which error is being handled. -/
  addsCause : Bool
  /-- The text of the cause has been worked out. -/
  hasCause : Bool
  /-- The text of the time has been worked out. -/
  hasTime : Bool
  /-- The record went through a queue. -/
  isQueued : Bool
deriving DecidableEq

/-- What a format can show: a text, a number, a double-precision one, or something that only has a text. -/
inductive Field where
  | text (content : String)
  | number (value : Nat)
  | float (value : Binary64)
  | shown (content : String)

/-- A field inside the text of a whole record. -/
def Field.quoted : Field → String
  | .text content => Text.quoted content
  | .number value => toString value
  | .float value => value.text
  | .shown content => content

namespace Record

/-- A record as a logger makes it. -/
def made (logger : String) (severity : Severity) (message : String) (moment : Moment) (addsCause : Bool) : Record :=
  ⟨logger, severity, message, moment, addsCause, false, false, false⟩

/-- The text of a cause: no error is ever being handled. -/
def cause : String := "NoneType: None"

/-- The text of what was given to be put into the message, which is nothing. -/
def arguments (record : Record) : String :=
  if record.isQueued then "None" else "()"

/-- The fields of a record in order; that of the time is there once its text has been worked out. -/
def fields (record : Record) : List (String × Field) := [
  ("name", .text record.logger), ("msg", .text record.message), ("args", .shown record.arguments),
  ("levelname", .text record.severity.name), ("levelno", .number record.severity.rank),
  ("pathname", .text (record.moment.folder ++ "/utils.py")), ("filename", .text "utils.py"), ("module", .text "utils"),
  ("exc_info", .shown (if record.addsCause then "(None, None, None)" else "None")),
  ("exc_text", if record.hasCause then .text cause else .shown "None"),
  ("stack_info", .shown "None"), ("lineno", .number 40), ("funcName", .text "encLog"),
  ("created", .float record.moment.created), ("msecs", .float record.moment.msecs),
  ("relativeCreated", .float record.moment.relativeCreated), ("thread", .number record.moment.thread.toNat),
  ("threadName", .text "MainThread"), ("processName", .text "MainProcess"),
  ("process", .number record.moment.process.toNat), ("message", .text record.message)] ++
  if record.hasTime then [("asctime", .text record.moment.time)] else []

/-- The field under a key. -/
def field? (record : Record) (key : String) : Option Field :=
  record.fields.lookup key

/-- The record as one field: all of its fields under their keys. -/
def whole (record : Record) : Field :=
  let entries := record.fields.map fun (key, field) => Text.quoted key ++ ": " ++ field.quoted
  .shown ("\x7b" ++ ", ".intercalate entries ++ "\x7d")

/-- The text of a record: a cause stands on a line of its own. -/
def withCause (record : Record) (text : String) : String :=
  if record.addsCause then
    (if text.toList.getLast? = some '\n' then text else text ++ "\n") ++ cause
  else text

/-- The record for a format, whose time is worked out where the format asks for it and is known from then on. -/
def timed (record : Record) (asksTime : Bool) : Record :=
  { record with hasTime := record.hasTime || asksTime }

variable (record : Record) (asksTime : Bool)

@[simp] theorem message_timed : (record.timed asksTime).message = record.message := rfl

@[simp] theorem moment_timed : (record.timed asksTime).moment = record.moment := rfl

@[simp] theorem addsCause_timed : (record.timed asksTime).addsCause = record.addsCause := rfl

/-- The record after its text has been made: the text of its cause is known from then on. -/
def written (record : Record) : Record :=
  { record with hasCause := record.addsCause }

/-- The record that a queue holds: its message has taken up the cause. -/
def queued (record : Record) : Record :=
  { record with
    message := record.withCause record.message, addsCause := false, hasCause := false, isQueued := true }

/-- A queue leaves a record as it is when it came from one. -/
theorem queued_queued (record : Record) : record.queued.queued = record.queued := by
  -- The cause is part of the message already.
  simp [queued, withCause]

end Record

end ProofWire.Log
