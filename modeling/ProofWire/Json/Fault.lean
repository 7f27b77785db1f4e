/-! What can be wrong with a JSON text, and where. -/

namespace ProofWire

/-- What is wrong with a JSON text. -/
inductive JsonProblem where
  | byteOrderMark
  | value
  | propertyName
  | colon
  | comma
  | extra
  | unterminated
  | control
  | escape
  | codeEscape
deriving DecidableEq

/-- The wording of a problem. -/
def JsonProblem.message : JsonProblem → String
  | .byteOrderMark => "Unexpected UTF-8 BOM (decode using utf-8-sig)"
  | .value => "Expecting value"
  | .propertyName => "Expecting property name enclosed in double quotes"
  | .colon => "Expecting ':' delimiter"
  | .comma => "Expecting ',' delimiter"
  | .extra => "Extra data"
  | .unterminated => "Unterminated string starting at"
  | .control => "Invalid control character at"
  | .escape => "Invalid \\escape"
  | .codeEscape => "Invalid \\uXXXX escape"

/-- A problem with the place of the character where it shows: lines and columns count from one. -/
structure JsonFault where
  problem : JsonProblem
  line : Nat
  column : Nat
  position : Nat

namespace JsonFault

/-- The place of a character, from the text before it. -/
def locate (problem : JsonProblem) (text : List Char) (position : Nat) : JsonFault :=
  let before := text.take position
  ⟨problem, before.count '\n' + 1, (before.reverse.takeWhile (· != '\n')).length + 1, position⟩

/-- The wording of a fault. -/
def message (fault : JsonFault) : String :=
  s!"{fault.problem.message}: line {fault.line} column {fault.column} (char {fault.position})"

end JsonFault

end ProofWire
