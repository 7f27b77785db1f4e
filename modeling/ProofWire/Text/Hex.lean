import ProofWire.Text.Numeral
import ProofWire.Text.Quoted

/-! Hexadecimal text of bytes: two lower-case digits per byte. -/

namespace ProofWire.Text

/-- The digits of bytes. -/
def hexOfBytes (content : List UInt8) : List Char :=
  content.flatMap fun byte => hexDigits 2 byte.toNat

/-- The bytes that pairs of digits of any case denote. -/
def bytesOfHex? : List Char → Option (List UInt8)
  | [] => some []
  | [_] => none
  | high :: low :: rest => do
    let high ← hexValue? high
    let low ← hexValue? low
    let bytes ← bytesOfHex? rest
    return UInt8.ofNat (16 * high + low) :: bytes

/-- Drops one mark `0x`, of either case. -/
def dropMark : List Char → List Char
  | '0' :: 'x' :: rest | '0' :: 'X' :: rest => rest
  | text => text

/-- How many characters the lower-case form of a text has: one each, but two for the dotted capital i. -/
def lowerLength (text : List Char) : Nat :=
  text.length + text.count (Char.ofNat 0x130)

end ProofWire.Text
