import ProofWire.Failure.Basic

/-! Sections of settings: entries under keys, updated by what a file says. -/

namespace ProofWire

/-- A section; keys of different types are equal when they are equal as numbers. -/
abbrev Section := List (Value × Value)

/-- A finite number as a fraction. -/
def Value.fraction? : Value → Option (Int × Nat)
  | .bool flag => some (if flag then 1 else 0, 1)
  | .int number => some (number, 1)
  | .float number =>
    if number.isFinite then some (number.signed number.magnitude.1, number.magnitude.2) else none
  | _ => none

/-- Two keys name the same entry. -/
def Value.isSameKey (left right : Value) : Bool :=
  match left, right with
  | .text left, .text right => left == right
  | .null, .null => true
  | left, right =>
    match left.fraction?, right.fraction? with
    | some left, some right => left.1 * right.2 == right.1 * left.2
    | none, none =>
      match left, right with
      | .float left, .float right => left.bits == right.bits
      | _, _ => false
    | _, _ => false

namespace Section

/-- The value under a key. -/
def get? (entries : Section) (key : Value) : Option Value :=
  (entries.find? fun entry => entry.1.isSameKey key).map Prod.snd

/-- Sets an entry: a known key keeps its place and its spelling, a new one comes last. -/
def insert : Section → Value × Value → Section
  | [], entry => [entry]
  | first :: rest, entry =>
    if first.1.isSameKey entry.1 then (first.1, entry.2) :: rest else first :: insert rest entry

/-- The items of an element that may stand for a pair: those of a sequence, the characters of a text or the keys of
an object. -/
def elementItems? : Value → Option (List Value)
  | .list items | .tuple items => some items
  | .text text => some (text.toList.map fun c => .text (String.singleton c))
  | .object entries => some (entries.map fun entry => .text entry.1)
  | _ => none

/-- A value that can be a key. -/
def isKey : Value → Bool
  | .list _ | .object _ => false
  | _ => true

/-- The pair that the element at an index stands for. -/
def pair (index : Nat) (element : Value) : Except Failure (Value × Value) :=
  match elementItems? element with
  | none => .error .wrongType
  | some [key, value] => if isKey key then .ok (key, value) else .error .wrongType
  | some items => .error (.entryLength index items.length)

/-- The pairs of elements in order. -/
def pairs : Nat → List Value → Except Failure (List (Value × Value))
  | _, [] => .ok []
  | index, element :: rest => do
    let first ← pair index element
    let others ← pairs (index + 1) rest
    return first :: others

/-- The entries that a value gives: those of an object, or the pairs of a row. -/
def given (source : Value) : Except Failure (List (Value × Value)) :=
  match source with
  | .object entries => .ok (entries.map fun entry => (.text entry.1, entry.2))
  | other =>
    match elementItems? other with
    | some elements => pairs 0 elements
    | none => .error .wrongType

/-- A section after the entries of a value. -/
def update (entries : Section) (source : Value) : Except Failure Section := do
  let changes ← given source
  return changes.foldl insert entries

end Section

end ProofWire
