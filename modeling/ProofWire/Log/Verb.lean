import ProofWire.Log.Severity

/-! Verbs: what a logger does with a message under the name of one of its operations. -/

namespace ProofWire.Log

/-- What a logger does with one message. -/
inductive Verb where
  /-- Reports the message; some reports add what error is being handled. -/
  | report (severity : Severity) (addsCause : Bool)
  /-- Takes the message and does nothing that shows. -/
  | ignore
  /-- Takes the message for the name of a level. -/
  | relevel
  /-- Takes the message for a handler to attach. -/
  | attach
  /-- Takes the message for a handler to detach. -/
  | detach
  /-- Takes the message for a further filter. -/
  | addFilter
  /-- Takes the message for a filter to remove. -/
  | removeFilter
  /-- Lets the filters judge the message. -/
  | judge
  /-- Takes the message for a record. -/
  | handle
  /-- Makes another logger of the same sort from the message. -/
  | another
  /-- Takes the message for the name of a logger below. -/
  | child
  /-- Starts over under the message as its name. -/
  | restart
  /-- Takes something else than one message. -/
  | unfit
  /-- Takes the message for the name of something of its own, or for a record to hand on, and finds nothing. -/
  | search

namespace Verb

/-- The operations that report, which are the names of levels for a report. -/
def reports : List (String × Verb) := [
  ("debug", .report .debug false), ("info", .report .info false), ("warning", .report .warning false),
  ("warn", .report .warning false), ("error", .report .error false),
  ("critical", .report .critical false), ("fatal", .report .critical false),
  ("exception", .report .error true)]

/-- Operations that do something else with a message. -/
def others : List (String × Verb) := [
  ("setLevel", .relevel), ("addHandler", .attach), ("removeHandler", .detach),
  ("addFilter", .addFilter), ("removeFilter", .removeFilter), ("filter", .judge), ("handle", .handle),
  ("getChild", .child), ("__class__", .another), ("__init__", .restart),
  ("callHandlers", .search), ("__getattribute__", .search), ("__delattr__", .search)]

/-- Operations that accept any message: comparisons with it, and a search for the caller. -/
def silent : List String :=
  ["__eq__", "__ne__", "__lt__", "__le__", "__gt__", "__ge__", "__subclasshook__", "findCaller"]

/-- Operations that take something else than one message, and parts of a logger that are no operations. -/
def misfits : List String := [
  "log", "_log", "makeRecord", "isEnabledFor", "getEffectiveLevel", "hasHandlers", "name", "level",
  "parent", "propagate", "handlers", "filters", "disabled", "manager", "root", "_cache", "__dict__",
  "__dir__", "__doc__", "__format__", "__getstate__", "__hash__", "__init_subclass__", "__module__",
  "__new__", "__reduce__", "__reduce_ex__", "__repr__", "__setattr__", "__sizeof__", "__str__",
  "__weakref__"]

/-- All that a logger has under a name. -/
def named : List (String × Verb) :=
  reports ++ others ++ silent.map (·, .ignore) ++ misfits.map (·, .unfit)

/-- The verb of a level, which is looked for under its name among all that a logger has. -/
def ofLevel : Value → Except Failure Verb
  | .text name =>
    match named.lookup name with
    | some verb => .ok verb
    | none => .error .noSuchOperation
  | _ => .error .wrongType

end Verb

end ProofWire.Log
