import ProofWire.Binary64.Basic
import ProofWire.Literal.Basic

/-! Values: untyped trees as they come from a parsed document or from a caller. -/

namespace ProofWire

/-- A row of bytes. -/
abbrev Bytes := List UInt8

/-- An untyped value; an object keeps its entries in the order of their first mention. -/
inductive Value where
  | null
  | bool (flag : Bool)
  | int (number : Int)
  | float (number : Binary64)
  | text (text : String)
  | list (items : List Value)
  | tuple (items : List Value)
  | object (entries : List (String × Value))
  | bytes (content : Bytes)
  | literal (literal : Literal)

instance : Inhabited Value := ⟨.null⟩

namespace Value

/-- The items of a list or a tuple; text and bytes are no sequences of values. -/
def items? : Value → Option (List Value)
  | .list items | .tuple items => some items
  | _ => none

/-- The name of a value's kind, with the number of items for a sequence. -/
def shape : Value → String
  | .null => "NoneType"
  | .bool _ => "bool"
  | .int _ => "int"
  | .float _ => "float"
  | .text _ => "str"
  | .list items => s!"list[{items.length}]"
  | .tuple items => s!"tuple[{items.length}]"
  | .object _ => "dict"
  | .bytes _ => "bytes"
  | .literal spelled => spelled.name

/-- The whole number that a value is; truth values count as zero and one. -/
def integer? : Value → Option Int
  | .bool flag => some (if flag then 1 else 0)
  | .int number => some number
  | _ => none

/-- Sets an entry of an object: a known key keeps its place, a new one comes last. -/
def insertEntry (entries : List (String × Value)) (key : String) (value : Value) : List (String × Value) :=
  match entries with
  | [] => [(key, value)]
  | entry :: rest => if entry.1 = key then (key, value) :: rest else entry :: insertEntry rest key value

/-- Nothing, zero and whatever is empty count as absent. -/
def isPresent : Value → Bool
  | .null => false
  | .bool flag => flag
  | .int number => number != 0
  | .float number => !number.isZero
  | .text content => !content.isEmpty
  | .list items | .tuple items => !items.isEmpty
  | .object entries => !entries.isEmpty
  | .bytes content => !content.isEmpty
  | .literal _ => true

end Value

end ProofWire
