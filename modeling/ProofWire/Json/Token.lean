import ProofWire.Binary64.Nearest
import ProofWire.Json.Fault
import ProofWire.Value.Basic

/-! Tokens of JSON text, each with its place. -/

namespace ProofWire.Json

/-- A token; what cannot start any token is junk, and a string can be broken at a place of its own. -/
inductive Token where
  | beginObject
  | endObject
  | beginArray
  | endArray
  | colon
  | comma
  | scalar (value : Value)
  /-- A word for a number that is no finite one, whose value is looked up. -/
  | constant (value : Binary64)
  | text (content : String)
  | longNumber (digits : Nat)
  | broken (problem : JsonProblem) (position : Nat)
  | junk

/-- A token and the place of its first character. -/
structure Lexeme where
  position : Nat
  token : Token

/-- The number of four hexadecimal digits. -/
def unit? (a b c d : Char) : Option Nat := do
  let a ← Text.hexValue? a
  let b ← Text.hexValue? b
  let c ← Text.hexValue? c
  let d ← Text.hexValue? d
  return ((a * 16 + b) * 16 + c) * 16 + d

/-- A unit that starts a pair. -/
def isHigh (unit : Nat) : Bool :=
  0xd800 ≤ unit && unit < 0xdc00

/-- A unit that ends a pair. -/
def isLow (unit : Nat) : Bool :=
  0xdc00 ≤ unit && unit < 0xe000

/-- The first of the private characters that stand for halves of pairs, which are no characters of their own. -/
def firstHalf : Nat := 0x10f800

/-- The character of a single unit; each half of a pair has a character that stands for it. -/
def unitChar (unit : Nat) : Char :=
  if isHigh unit || isLow unit then Char.ofNat (firstHalf + (unit - 0xd800)) else Char.ofNat unit

/-- What an escape by code holds: a character, the number of characters it takes after the `u`, and the rest. -/
def codeEscape (position : Nat) :
    List Char → Except (JsonProblem × Nat) (Char × Nat × List Char)
  -- A string ends with a quote, so the four digits are never the end of the text.
  | a :: b :: c :: d :: next :: rest =>
    match unit? a b c d with
    | none => .error (.codeEscape, position)
    | some high =>
      let single := (unitChar high, 4, next :: rest)
      match next :: rest with
      | '\\' :: 'u' :: e :: f :: g :: h :: last :: rest =>
        if isHigh high then
          match unit? e f g h with
          | none => .error (.codeEscape, position + 6)
          | some low =>
            if isLow low then
              let code := 0x10000 + (high - 0xd800) * 0x400 + (low - 0xdc00)
              .ok (Char.ofNat code, 10, last :: rest)
            else .ok single
        else .ok single
      | _ => .ok single
  | _ => .error (.codeEscape, position)

/-- The character that a letter after a backslash stands for. -/
def letterEscape? : Char → Option Char
  | '"' => some '"'
  | '\\' => some '\\'
  | '/' => some '/'
  | 'b' => some (Char.ofNat 8)
  | 'f' => some (Char.ofNat 12)
  | 'n' => some '\n'
  | 'r' => some '\r'
  | 't' => some '\t'
  | _ => none

/-- Reads a string after its quote at `start`: its characters, the place after the closing quote and the rest. -/
def scanText (start : Nat) : Nat → Nat → List Char → List Char →
    Except (JsonProblem × Nat) (String × Nat × List Char)
  | 0, _, _, _ => .error (.unterminated, start)
  | _, _, _, [] => .error (.unterminated, start)
  | _, position, content, '"' :: rest => .ok (String.ofList content.reverse, position + 1, rest)
  | _, _, _, ['\\'] => .error (.unterminated, start)
  | fuel + 1, position, content, '\\' :: 'u' :: rest =>
    match codeEscape (position + 1) rest with
    | .error problem => .error problem
    | .ok (c, width, rest) => scanText start fuel (position + 2 + width) (c :: content) rest
  | fuel + 1, position, content, '\\' :: letter :: rest =>
    match letterEscape? letter with
    | none => .error (.escape, position)
    | some c => scanText start fuel (position + 2) (c :: content) rest
  | fuel + 1, position, content, c :: rest =>
    if c.toNat < 0x20 then .error (.control, position)
    else scanText start fuel (position + 1) (c :: content) rest

/-- A fraction after its whole digits: the digits behind a point that has some, and the rest. -/
def fractionDigits : List Char → List Char × List Char
  | '.' :: rest =>
    let digits := rest.takeWhile Char.isDigit
    if digits.isEmpty then ([], '.' :: rest) else (digits, rest.dropWhile Char.isDigit)
  | rest => ([], rest)

/-- The sign of an exponent and what follows. -/
def exponentSign : List Char → Bool × List Char
  | '-' :: rest => (true, rest)
  | '+' :: rest => (false, rest)
  | rest => (false, rest)

/-- An exponent that has digits, and the rest. -/
def exponent? : List Char → Option Int × List Char
  | mark :: rest =>
    if mark == 'e' || mark == 'E' then
      let (negative, after) := exponentSign rest
      let digits := after.takeWhile Char.isDigit
      if digits.isEmpty then (none, mark :: rest)
      else
        let size : Int := Text.decimalValue digits
        (some (if negative then -size else size), after.dropWhile Char.isDigit)
    else (none, mark :: rest)
  | [] => (none, [])

/-- A number without its sign: one zero, or digits that start with another one. -/
def wholeDigits (text : List Char) : List Char :=
  match text with
  | '0' :: _ => ['0']
  | _ => text.takeWhile Char.isDigit

/-- A number and the rest; a point or an exponent makes it a double-precision one. -/
def number? (negative : Bool) (text : List Char) : Option (Token × List Char) :=
  let whole := wholeDigits text
  if whole.isEmpty then none
  else
    let (fraction, rest) := fractionDigits (text.drop whole.length)
    let (exponent, rest) := exponent? rest
    if fraction.isEmpty && exponent.isNone then
      if Text.maxDigits < whole.length then some (.longNumber whole.length, rest)
      else
        let size : Int := Text.decimalValue whole
        some (.scalar (.int (if negative then -size else size)), rest)
    else
      let digits := Text.decimalValue (whole ++ fraction)
      let scale := exponent.getD 0 - fraction.length
      some (.scalar (.float (Binary64.ofDecimal negative digits scale)), rest)

/-- The words that stand for values. -/
def words : List (List Char × Token) := [
  ("null".toList, .scalar .null),
  ("true".toList, .scalar (.bool true)),
  ("false".toList, .scalar (.bool false)),
  ("NaN".toList, .constant Binary64.nan),
  ("Infinity".toList, .constant (Binary64.infinity false)),
  ("-Infinity".toList, .constant (Binary64.infinity true))]

/-- A word or a number and the rest. -/
def scalar? (text : List Char) : Option (Token × List Char) :=
  match words.find? fun word => word.1.isPrefixOf text with
  | some (word, token) => some (token, text.drop word.length)
  | none =>
    match text with
    | '-' :: rest => number? true rest
    | _ => number? false text

/-- White space between tokens. -/
def isSpace (c : Char) : Bool :=
  c == ' ' || c == '\t' || c == '\n' || c == '\r'

/-- The token of a character that is one by itself. -/
def punctuation? : Char → Option Token
  | '\x7b' => some .beginObject
  | '\x7d' => some .endObject
  | '[' => some .beginArray
  | ']' => some .endArray
  | ':' => some .colon
  | ',' => some .comma
  | _ => none

/-- The tokens of a text from a place on; a broken string and junk are the last ones. -/
def tokensFrom : Nat → Nat → List Char → List Lexeme
  | 0, _, _ => []
  | _, _, [] => []
  | fuel + 1, position, c :: rest =>
    if isSpace c then tokensFrom fuel (position + 1) rest
    else
      match punctuation? c with
      | some token => ⟨position, token⟩ :: tokensFrom fuel (position + 1) rest
      | none =>
        if c == '"' then
          match scanText position (rest.length + 1) (position + 1) [] rest with
          | .error (problem, place) => [⟨position, .broken problem place⟩]
          | .ok (content, after, rest) => ⟨position, .text content⟩ :: tokensFrom fuel after rest
        else
          match scalar? (c :: rest) with
          | none => [⟨position, .junk⟩]
          | some (token, after) =>
            let width := rest.length + 1 - after.length
            ⟨position, token⟩ :: tokensFrom fuel (position + width) after

/-- The tokens of a text. -/
def tokens (text : List Char) : List Lexeme :=
  tokensFrom text.length 0 text

end ProofWire.Json
