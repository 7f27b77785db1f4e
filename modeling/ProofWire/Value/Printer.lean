import ProofWire.Binary64.Shortest
import ProofWire.Text.Quoted
import ProofWire.Value.Basic

/-! The text of a value in a message. -/

namespace ProofWire

/-- Bytes in a message: printable ASCII as it is, the rest by code, between quotes. -/
def quotedBytes (content : Bytes) : String :=
  "b" ++ Text.quoteWith (fun c => 0x20 ≤ c.toNat && c.toNat < 0x7f)
    (String.ofList (content.map fun byte => Char.ofNat byte.toNat))

namespace Literal

/-- A literal in a message: its name and its contents. -/
def quoted? : Literal → Option String
  | .integer value => do
    let value ← Text.decimal? value
    return s!"IntegerLiteral(value={value})"
  | .decimal numeral => some s!"DecimalString(text={Text.quoted numeral.text})"
  | .hex numeral => some s!"HexString(text={Text.quoted numeral.text})"
  | .unitFraction numerator => do
    let numerator ← Text.decimal? numerator
    return s!"UnitFraction(numerator={numerator})"
  | .nonUnitFraction numerator denominator => do
    let numerator ← Text.decimal? numerator
    let denominator ← Text.decimal? denominator
    return s!"NonUnitFraction(numerator={numerator}, denominator={denominator})"

end Literal

namespace Value

mutual

/-- A value inside a message, text quoted; nothing when it holds a number too long to write. -/
def quoted? : Value → Option String
  | .null => some "None"
  | .bool flag => some (if flag then "True" else "False")
  | .int number => Text.decimal? number
  | .float number => some number.text
  | .text content => some (Text.quoted content)
  | .list items => do
    let items ← quotedItems? items
    return "[" ++ ", ".intercalate items ++ "]"
  | .tuple items => do
    let items ← quotedItems? items
    return "(" ++ ", ".intercalate items ++ (if items.length = 1 then ",)" else ")")
  | .object entries => do
    let entries ← quotedEntries? entries
    return "\x7b" ++ ", ".intercalate entries ++ "\x7d"
  | .bytes content => some (quotedBytes content)
  | .literal spelled => spelled.quoted?

/-- The texts of items in order. -/
def quotedItems? : List Value → Option (List String)
  | [] => some []
  | item :: rest => do
    let item ← quoted? item
    let rest ← quotedItems? rest
    return item :: rest

/-- The texts of entries in order. -/
def quotedEntries? : List (String × Value) → Option (List String)
  | [] => some []
  | (key, value) :: rest => do
    let value ← quoted? value
    let rest ← quotedEntries? rest
    return (Text.quoted key ++ ": " ++ value) :: rest

end

/-- A value as message text: text stands as it is, all else as inside a message. -/
def shown? : Value → Option String
  | .text content => some content
  | value => value.quoted?

end Value

end ProofWire
