import ProofWire.Text.Printable

/-! Quoted text: a text between quotes, with escapes for what cannot be shown. -/

namespace ProofWire.Text

/-- The lower-case digit of a value below sixteen. -/
def hexDigit (value : Nat) : Char :=
  Nat.digitChar value

/-- The last `width` hexadecimal digits of a number, in reading order. -/
def hexDigits : Nat → Nat → List Char
  | 0, _ => []
  | width + 1, value => hexDigits width (value / 16) ++ [hexDigit (value % 16)]

/-- A character that is not shown stands as `\x`, `\u` or `\U` with two, four or eight digits. -/
def codeEscape (code : Nat) : List Char :=
  if code < 0x100 then '\\' :: 'x' :: hexDigits 2 code
  else if code < 0x10000 then '\\' :: 'u' :: hexDigits 4 code
  else '\\' :: 'U' :: hexDigits 8 code

/-- One character of quoted text. -/
def escape (shown : Char → Bool) (quote c : Char) : List Char :=
  if c == quote || c == '\\' then ['\\', c]
  else if c == '\n' then ['\\', 'n']
  else if c == '\r' then ['\\', 'r']
  else if c == '\t' then ['\\', 't']
  else if shown c then [c]
  else codeEscape c.toNat

/-- Single quotes enclose a text, double ones a text that has single quotes and no double quote. -/
def quoteFor (text : List Char) : Char :=
  if text.contains '\'' && !text.contains '"' then '"' else '\''

/-- A text between quotes in which every character outside `shown` is escaped. -/
def quoteWith (shown : Char → Bool) (text : String) : String :=
  let quote := quoteFor text.toList
  String.ofList (quote :: text.toList.flatMap (escape shown quote) ++ [quote])

/-- A text between quotes, with the unprintable characters escaped. -/
def quoted (text : String) : String :=
  quoteWith isPrintable text

/-- A text between quotes in ASCII alone. -/
def quotedAscii (text : String) : String :=
  quoteWith (fun c => isPrintable c && c.toNat < 0x80) text

/-- A text in ASCII alone: every other character stands as an escape by code. -/
def inAscii (text : String) : String :=
  String.ofList (text.toList.flatMap fun c => if c.toNat < 0x80 then [c] else codeEscape c.toNat)

end ProofWire.Text
