import ProofWire.Failure.Basic
import ProofWire.Value.Basic

/-! Names of loggers: dots make a hierarchy, at whose top the root stands. -/

namespace ProofWire.Log

/-- The name of a logger. -/
inductive LoggerName where
  | root
  | named (text : String)
deriving DecidableEq

namespace LoggerName

/-- The name that a logger has at first. -/
def text : LoggerName → String
  | .root => "root"
  | .named text => text

/-- The logger of a text; the empty text and the word `root` mean the root. -/
def ofText (text : String) : LoggerName :=
  if text.isEmpty || text == "root" then .root else .named text

/-- The logger of a value; what counts as absent means the root. -/
def ofValue (value : Value) : Except Failure LoggerName :=
  if value.isPresent then
    match value with
    | .text text => .ok (ofText text)
    | _ => .error .wrongType
  else .ok .root

/-- The names above a name that is read from its end, the nearest first: what precedes a dot. The character that
ends such a name is passed over on the way to the next dot. -/
def aboveReversed : List Char → List String
  | '.' :: last :: rest => String.ofList (last :: rest).reverse :: aboveReversed rest
  | _ :: rest => aboveReversed rest
  | [] => []

/-- The names above a name, the nearest first. -/
def above (name : String) : List String :=
  aboveReversed name.toList.reverse

end LoggerName

end ProofWire.Log
