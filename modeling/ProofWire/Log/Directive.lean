import ProofWire.Binary64.Pointed
import ProofWire.Log.Record

/-! Directives of record formats: `%`, a field in parentheses, flags, a width, a precision and a conversion.

A directive without a key shows the record as a whole. Only the first directive of a format can do so, since each one
uses up what there is to show. -/

namespace ProofWire.Log

/-- How a field is written. -/
inductive Conversion where
  | plain
  | quoted
  | ascii
  | character
  | decimal
  | octal
  | hexadecimal (capital : Bool)
  | exponential (capital : Bool)
  | fixed (capital : Bool)
  | general (capital : Bool)
deriving DecidableEq

/-- The conversion of a letter. -/
def Conversion.ofChar? : Char → Option Conversion
  | 's' => some .plain
  | 'r' => some .quoted
  | 'a' => some .ascii
  | 'c' => some .character
  | 'd' | 'i' | 'u' => some .decimal
  | 'o' => some .octal
  | 'x' => some (.hexadecimal false)
  | 'X' => some (.hexadecimal true)
  | 'e' => some (.exponential false)
  | 'E' => some (.exponential true)
  | 'f' => some (.fixed false)
  | 'F' => some (.fixed true)
  | 'g' => some (.general false)
  | 'G' => some (.general true)
  | _ => none

/-- How a field is written, and in how much space. -/
structure Style where
  flags : List Char
  width : Nat
  precision : Option Nat
  conversion : Conversion

namespace Style

/-- A flag is set. -/
def has (style : Style) (flag : Char) : Bool :=
  style.flags.contains flag

/-- A text of at least a width; it stands at the right unless the style has a minus. -/
def pad (style : Style) (body : List Char) : List Char :=
  let blanks := List.replicate (style.width - body.length) ' '
  if style.has '-' then body ++ blanks else blanks ++ body

/-- A number of at least a width: its sign, its mark and its digits, before which zeros can stand. -/
def padNumber (style : Style) (isNegative : Bool) (mark body : List Char) : List Char :=
  let sign :=
    if isNegative then ['-'] else if style.has '+' then ['+'] else if style.has ' ' then [' '] else []
  let lead := sign ++ mark
  if style.has '0' && !style.has '-' then
    lead ++ List.replicate (style.width - (lead.length + body.length)) '0' ++ body
  else style.pad (lead ++ body)

/-- A text cut to the precision. -/
def cut (style : Style) (text : String) : List Char :=
  match style.precision with
  | some count => text.toList.take count
  | none => text.toList

/-- The digits of a whole number, of which the precision asks for a count. -/
def digits (style : Style) (base value : Nat) : List Char :=
  let digits := Nat.toDigits base value
  List.replicate (style.precision.getD 0 - digits.length) '0' ++ digits

/-- A mark that shows by flag only. -/
def mark (style : Style) (text : String) : List Char :=
  if style.has '#' then text.toList else []

/-- Letters as capitals where these are asked for. -/
def letters (capital : Bool) (text : List Char) : List Char :=
  if capital then text.map Char.toUpper else text

/-- The text of a field that is a text; `none` if the conversion is for numbers. -/
def ofText? (style : Style) (content : String) : Option (List Char) :=
  match style.conversion with
  | .plain => some (style.pad (style.cut content))
  | .quoted => some (style.pad (style.cut (Text.quoted content)))
  | .ascii => some (style.pad (style.cut (Text.quotedAscii content)))
  | .character => if content.length = 1 then some (style.pad content.toList) else none
  | _ => none

/-- A double-precision number in one of the three pointed forms; the other conversions have none. -/
def pointed? (style : Style) (value : Binary64) : Option (List Char) :=
  let places := style.precision.getD 6
  let point := style.has '#'
  let signed (capital : Bool) (write : Nat → Nat → List Char) : List Char :=
    style.padNumber value.showsMinus [] (letters capital (value.unsignedText write))
  match style.conversion with
  | .exponential capital => some (signed capital (Binary64.exponentialText places point))
  | .fixed capital => some (signed capital (Binary64.fixedText places point))
  | .general capital => some (signed capital (Binary64.generalText places point))
  | _ => none

/-- The text of a field that is a whole number. Only a number of a character shows as one, and one beyond all
double-precision numbers has no pointed form. -/
def ofNumber? (style : Style) (value : Nat) : Option (List Char) :=
  match style.conversion with
  | .plain | .quoted | .ascii => some (style.pad (style.cut (toString value)))
  | .character => if value.isValidChar then some (style.pad [Char.ofNat value]) else none
  | .decimal => some (style.padNumber false [] (style.digits 10 value))
  | .octal => some (style.padNumber false (style.mark "0o") (style.digits 8 value))
  | .hexadecimal capital =>
    some (style.padNumber false (letters capital (style.mark "0x")) (letters capital (style.digits 16 value)))
  | .exponential _ | .fixed _ | .general _ =>
    let rounded := Binary64.ofDecimal false value 0
    if rounded.isFinite then style.pointed? rounded else none

/-- The text of a field that is a double-precision number. Its decimal form leaves the places away, which takes a finite
one, and there is no form in another base and no character. -/
def ofFloat? (style : Style) (value : Binary64) : Option (List Char) :=
  match style.conversion with
  | .plain | .quoted | .ascii => some (style.pad (style.cut value.text))
  | .character | .octal | .hexadecimal _ => none
  | .decimal =>
    let whole := value.magnitude.1 / value.magnitude.2
    if value.isFinite then some (style.padNumber (value.isNegative && whole != 0) [] (style.digits 10 whole))
    else none
  | .exponential _ | .fixed _ | .general _ => style.pointed? value

/-- The text of a field that has a text only. -/
def ofShown? (style : Style) (content : String) : Option (List Char) :=
  match style.conversion with
  | .plain | .quoted => some (style.pad (style.cut content))
  | .ascii => some (style.pad (style.cut (Text.inAscii content)))
  | _ => none

/-- The text of a field. -/
def write? (style : Style) : Field → Option (List Char)
  | .text content => style.ofText? content
  | .number value => style.ofNumber? value
  | .float value => style.ofFloat? value
  | .shown content => style.ofShown? content

end Style

/-- One directive. -/
structure Directive where
  key : Option String
  style : Style

namespace Directive

/-- A flag of a directive. -/
def isFlag (c : Char) : Bool :=
  c == '-' || c == '+' || c == ' ' || c == '#' || c == '0'

/-- The key in parentheses, if there is one, and what follows. -/
def takeKey? : List Char → Option (Option String × List Char)
  | '(' :: rest =>
    match rest.dropWhile (· != ')') with
    | _ :: after => some (some (String.ofList (rest.takeWhile (· != ')'))), after)
    | [] => none
  | text => some (none, text)

/-- A precision after its point, and what follows; a point alone means zero. -/
def takePrecision : List Char → Option Nat × List Char
  | '.' :: rest =>
    (some (Text.decimalValue (rest.takeWhile Char.isDigit)), rest.dropWhile Char.isDigit)
  | text => (none, text)

/-- A letter of size means nothing. -/
def dropSize : List Char → List Char
  | 'h' :: rest | 'l' :: rest | 'L' :: rest => rest
  | text => text

/-- The greatest width that a directive can ask for. -/
def maxWidth : Nat := Nat.pow 2 63 - 1

/-- The greatest precision that a directive can ask for. -/
def maxPrecision : Nat := Nat.pow 2 31 - 1

/-- The directive after a percent sign, and what follows. -/
def take? (text : List Char) : Option (Directive × List Char) := do
  let (key, text) ← takeKey? text
  let flags := text.takeWhile isFlag
  let text := text.dropWhile isFlag
  let width := Text.decimalValue (text.takeWhile Char.isDigit)
  let (precision, text) := takePrecision (text.dropWhile Char.isDigit)
  if maxWidth < width || maxPrecision < precision.getD 0 then none
  else
    match dropSize text with
    | [] => none
    | letter :: rest => do
      let conversion ← Conversion.ofChar? letter
      return (⟨key, ⟨flags, width, precision, conversion⟩⟩, rest)

/-- The field that a directive shows, where `unused` is what can be shown without a key. -/
def field? (directive : Directive) (record : Record) (unused : Option Field) : Option Field :=
  match directive.key with
  | some key => record.field? key
  | none => unused

/-- What a directive shows. -/
def render? (directive : Directive) (record : Record) (unused : Option Field) : Option (List Char) := do
  let field ← directive.field? record unused
  directive.style.write? field

end Directive

end ProofWire.Log
