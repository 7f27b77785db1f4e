/-! UTF-8: texts as bytes, with the place and the reason where bytes are no text. -/

namespace ProofWire.Text

/-- Why bytes are no text. -/
inductive Utf8Problem where
  | start
  | continuation
  | ended

/-- The wording of a problem. -/
def Utf8Problem.message : Utf8Problem → String
  | .start => "invalid start byte"
  | .continuation => "invalid continuation byte"
  | .ended => "unexpected end of data"

/-- The first bytes that are no text: where they start, how many there are and what is wrong. -/
structure Utf8Fault where
  position : Nat
  bytes : List UInt8
  problem : Utf8Problem

/-- What the start of a byte string holds. -/
inductive Utf8Step where
  | char (c : Char) (rest : List UInt8)
  | fault (width : Nat) (problem : Utf8Problem)

/-- A byte that continues a character. -/
def isContinuation (byte : UInt8) : Bool :=
  0x80 ≤ byte && byte < 0xc0

/-- The payload of a continuation byte. -/
def payload (byte : UInt8) : Nat :=
  byte.toNat % 0x40

/-- Which second bytes may follow the first byte of a three- or four-byte character. -/
def isSecond (first second : UInt8) : Bool :=
  isContinuation second &&
    (first != 0xe0 || 0xa0 ≤ second) && (first != 0xed || second < 0xa0) &&
    (first != 0xf0 || 0x90 ≤ second) && (first != 0xf4 || second < 0x90)

/-- A character of two bytes after its first one. -/
def pairStep (first : UInt8) : List UInt8 → Utf8Step
  | [] => .fault 1 .ended
  | second :: rest =>
    if isContinuation second then
      .char (Char.ofNat (first.toNat % 0x20 * 0x40 + payload second)) rest
    else .fault 1 .continuation

/-- A character of three bytes after its first one. -/
def tripleStep (first : UInt8) : List UInt8 → Utf8Step
  | [] => .fault 1 .ended
  | [second] => if isSecond first second then .fault 2 .ended else .fault 1 .continuation
  | second :: third :: rest =>
    if !isSecond first second then .fault 1 .continuation
    else if !isContinuation third then .fault 2 .continuation
    else .char (Char.ofNat ((first.toNat % 0x10 * 0x40 + payload second) * 0x40 + payload third)) rest

/-- A character of four bytes after its first one. -/
def quadrupleStep (first : UInt8) : List UInt8 → Utf8Step
  | [] => .fault 1 .ended
  | [second] => if isSecond first second then .fault 2 .ended else .fault 1 .continuation
  | [second, third] =>
    if !isSecond first second then .fault 1 .continuation
    else if isContinuation third then .fault 3 .ended else .fault 2 .continuation
  | second :: third :: fourth :: rest =>
    if !isSecond first second then .fault 1 .continuation
    else if !isContinuation third then .fault 2 .continuation
    else if !isContinuation fourth then .fault 3 .continuation
    else
      .char (Char.ofNat (((first.toNat % 0x08 * 0x40 + payload second) * 0x40 + payload third) * 0x40
        + payload fourth)) rest

/-- The first character of a non-empty byte string. -/
def firstStep (first : UInt8) (rest : List UInt8) : Utf8Step :=
  if first < 0x80 then .char (Char.ofNat first.toNat) rest
  else if first < 0xc2 then .fault 1 .start
  else if first < 0xe0 then pairStep first rest
  else if first < 0xf0 then tripleStep first rest
  else if first < 0xf5 then quadrupleStep first rest
  else .fault 1 .start

/-- Reads characters from a position on; every character takes at least one unit of `fuel`. -/
def decodeFrom : Nat → Nat → List UInt8 → Except Utf8Fault (List Char)
  | 0, _, _ => .ok []
  | _, _, [] => .ok []
  | fuel + 1, position, first :: rest =>
    match firstStep first rest with
    | .char c after => (decodeFrom fuel (position + c.utf8Size) after).map (c :: ·)
    | .fault width problem => .error ⟨position, (first :: rest).take width, problem⟩

/-- The text that bytes encode. -/
def decodeUtf8 (bytes : List UInt8) : Except Utf8Fault (List Char) :=
  decodeFrom bytes.length 0 bytes

/-- Line ends of every kind become a line feed. -/
def unifyNewlines : List Char → List Char
  | [] => []
  | '\r' :: '\n' :: rest => '\n' :: unifyNewlines rest
  | c :: rest => (if c == '\r' then '\n' else c) :: unifyNewlines rest

end ProofWire.Text
