import ProofWire.Failure.Basic
import ProofWire.Text.Upper
import ProofWire.Value.Basic

/-! Severities of records, and the names of levels. -/

namespace ProofWire.Log

/-- How grave a record is. -/
inductive Severity where
  | debug
  | info
  | warning
  | error
  | critical
deriving DecidableEq

namespace Severity

/-- The rank of a severity; graver records rank higher. -/
def rank : Severity → Nat
  | .debug => 10
  | .info => 20
  | .warning => 30
  | .error => 40
  | .critical => 50

/-- The name that a record shows. -/
def name : Severity → String
  | .debug => "DEBUG"
  | .info => "INFO"
  | .warning => "WARNING"
  | .error => "ERROR"
  | .critical => "CRITICAL"

end Severity

/-- The names of levels with their ranks; rank zero sets no level. -/
def levels : List (String × Nat) := [
  ("CRITICAL", 50), ("FATAL", 50), ("ERROR", 40), ("WARN", 30), ("WARNING", 30), ("INFO", 20),
  ("DEBUG", 10), ("NOTSET", 0)]

/-- The rank of a level, which is named in letters of either case. -/
def levelOfValue : Value → Except Failure Nat
  | .text name =>
    let capitals := Text.upper name
    match levels.lookup capitals with
    | some rank => .ok rank
    | none => .error (.unknownLevel ("Level " ++ capitals))
  | _ => .error .noSuchOperation

end ProofWire.Log
