import ProofWire.Text.Quoted

/-! JSON documents and their indented text. -/

namespace ProofWire

/-- A JSON document without arrays and fractional numbers. -/
inductive Document where
  | null
  | bool (flag : Bool)
  | number (value : Int)
  | text (content : String)
  | object (entries : List (String × Document))

namespace Document

/-- A UTF-16 unit as an escape. -/
def unitEscape (unit : Nat) : List Char :=
  '\\' :: 'u' :: Text.hexDigits 4 unit

/-- A character of a JSON string in ASCII. -/
def escape (c : Char) : List Char :=
  if c == '"' || c == '\\' then ['\\', c]
  else if c == '\n' then ['\\', 'n']
  else if c == '\r' then ['\\', 'r']
  else if c == '\t' then ['\\', 't']
  else if c.toNat = 8 then ['\\', 'b']
  else if c.toNat = 12 then ['\\', 'f']
  else if 0x20 ≤ c.toNat ∧ c.toNat < 0x7f then [c]
  else if c.toNat < 0x10000 then unitEscape c.toNat
  else unitEscape (0xd800 + (c.toNat - 0x10000) / 0x400) ++ unitEscape (0xdc00 + c.toNat % 0x400)

/-- A JSON string. -/
def quoted (content : String) : String :=
  String.ofList ('"' :: content.toList.flatMap escape ++ ['"'])

/-- The start of a line at a depth. -/
def newline (depth : Nat) : String :=
  String.ofList ('\n' :: List.replicate (2 * depth) ' ')

mutual

/-- The text of a document whose first line stands at a depth: one entry a line, two blanks a level. -/
def renderAt (depth : Nat) : Document → String
  | .null => "null"
  | .bool flag => if flag then "true" else "false"
  | .number value => toString value
  | .text content => quoted content
  | .object [] => "\x7b\x7d"
  | .object (first :: rest) =>
    "\x7b" ++ newline (depth + 1)
      ++ ("," ++ newline (depth + 1)).intercalate (entriesAt (depth + 1) (first :: rest))
      ++ newline depth ++ "\x7d"

/-- The texts of entries. -/
def entriesAt (depth : Nat) : List (String × Document) → List String
  | [] => []
  | (key, value) :: rest => (quoted key ++ ": " ++ renderAt depth value) :: entriesAt depth rest

end

/-- The text of a document. -/
def render (document : Document) : String :=
  renderAt 0 document

end Document

end ProofWire
