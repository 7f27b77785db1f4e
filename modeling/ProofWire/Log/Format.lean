import ProofWire.Log.Directive
import ProofWire.Text.Wordlike

/-! Formats of records: text with directives in it. -/

namespace ProofWire.Log

/-- A part of a format. -/
inductive Piece where
  | literal (c : Char)
  | directive (content : Directive)

/-- A key is part of the text it is taken from. -/
theorem Directive.length_takeKey? {text rest : List Char} {key : Option String}
    (taken : Directive.takeKey? text = some (key, rest)) : rest.length ≤ text.length := by
  -- What follows a key is the end of the text.
  unfold Directive.takeKey? at taken
  split at taken
  · rename_i after
    split at taken
    · rename_i found
      have bound := (List.dropWhile_sublist (p := (· != ')')) (l := after)).length_le
      simp only [found, List.length_cons] at bound
      simp only [Option.some.injEq, Prod.mk.injEq] at taken
      simp only [← taken.2, List.length_cons]
      omega
    · simp at taken
  · simp only [Option.some.injEq, Prod.mk.injEq] at taken
    simp [taken.2]

/-- A precision is part of the text it is taken from. -/
theorem Directive.length_takePrecision (text : List Char) :
    (Directive.takePrecision text).2.length ≤ text.length := by
  -- What follows a precision is the end of the text.
  unfold Directive.takePrecision
  split
  · rename_i rest
    have bound := (List.dropWhile_sublist (p := Char.isDigit) (l := rest)).length_le
    simp only [List.length_cons]
    omega
  · exact Nat.le_refl _

/-- A letter of size is part of the text it is dropped from. -/
theorem Directive.length_dropSize (text : List Char) :
    (Directive.dropSize text).length ≤ text.length := by
  -- At most one character goes.
  unfold Directive.dropSize
  split <;> simp

/-- A directive takes at least its letter. -/
theorem Directive.length_take? {text rest : List Char} {directive : Directive}
    (taken : Directive.take? text = some (directive, rest)) : rest.length < text.length := by
  -- No step gives anything back, and the last one takes the letter.
  unfold Directive.take? at taken
  simp only [Option.bind_eq_bind, Option.bind_eq_some_iff] at taken
  obtain ⟨⟨key, afterKey⟩, keyTaken, taken⟩ := taken
  have first := Directive.length_takeKey? keyTaken
  have second := (List.dropWhile_sublist (p := Directive.isFlag) (l := afterKey)).length_le
  have third := (List.dropWhile_sublist (p := Char.isDigit)
    (l := afterKey.dropWhile Directive.isFlag)).length_le
  have fourth := Directive.length_takePrecision
    ((afterKey.dropWhile Directive.isFlag).dropWhile Char.isDigit)
  have fifth := Directive.length_dropSize (Directive.takePrecision
    ((afterKey.dropWhile Directive.isFlag).dropWhile Char.isDigit)).2
  simp only at taken
  split at taken
  · cases taken
  split at taken
  · cases taken
  · rename_i found
    simp only [found, List.length_cons] at fifth
    simp only [Option.bind_eq_some_iff] at taken
    obtain ⟨conversion, _, taken⟩ := taken
    simp only [Option.pure_def, Option.some.injEq, Prod.mk.injEq] at taken
    rw [← taken.2]
    omega

/-- The parts of a format, unless a percent sign starts no directive; two of these stand for one. -/
def Piece.ofText? : List Char → Option (List Piece)
  | [] => some []
  | '%' :: '%' :: text => do
    let pieces ← Piece.ofText? text
    return .literal '%' :: pieces
  | '%' :: text =>
    match _taken : Directive.take? text with
    | none => none
    | some (found, rest) => do
      let pieces ← Piece.ofText? rest
      return .directive found :: pieces
  | c :: text => do
    let pieces ← Piece.ofText? text
    return .literal c :: pieces
termination_by text => text.length
decreasing_by
  · simp only [List.length_cons]
    omega
  · have := Directive.length_take? _taken
    simp only [List.length_cons]
    omega
  · simp

/-- What parts show of a record, where `unused` is what can be shown without a key. -/
def Piece.render? (record : Record) : Option Field → List Piece → Option (List Char)
  | _, [] => some []
  | unused, .literal c :: rest => do
    let later ← Piece.render? record unused rest
    return c :: later
  | unused, .directive found :: rest => do
    let shown ← found.render? record unused
    let later ← Piece.render? record none rest
    return shown ++ later

/-- How a record is written. -/
structure Format where
  text : String
deriving DecidableEq

namespace Format

/-- The letter of a conversion in either case, or one of the three letters that differ from one only in a dot or a
stroke. -/
def isLetter (c : Char) : Bool :=
  "diouxefgcrsa%".toList.contains c.toLower || [0x130, 0x131, 0x17f].contains c.toNat

/-- What follows a star or one or more digits of any script. -/
def dropCount? : List Char → Option (List Char)
  | '*' :: rest => some rest
  | c :: rest => if Text.isAnyDigit c then some (rest.dropWhile Text.isAnyDigit) else none
  | [] => none

/-- A text that continues a percent sign to the display of a field. -/
def startsField : List Char → Bool
  | '(' :: text =>
    match text.takeWhile Text.isWordlike, text.dropWhile Text.isWordlike with
    | _ :: _, ')' :: rest =>
      let rest := rest.dropWhile Directive.isFlag
      let rest := (dropCount? rest).getD rest
      match rest with
      | '.' :: rest => (dropCount? rest).any fun rest => rest.head?.any isLetter
      | rest => rest.head?.any isLetter
    | _, _ => false
  | _ => false

/-- A format shows a field if some percent sign starts the display of one. -/
def showsField : List Char → Bool
  | [] => false
  | c :: text => (c == '%' && startsField text) || showsField text

/-- A text asks for the time if it mentions its key. -/
def mentionsTime : List Char → Bool
  | [] => false
  | c :: text => "%(asctime)".toList.isPrefixOf (c :: text) || mentionsTime text

/-- A format asks for the time. -/
def asksTime (format : Format) : Bool :=
  mentionsTime format.text.toList

/-- The message alone. -/
def message : Format :=
  ⟨"%(message)s"⟩

/-- The time and the message. -/
def standard : Format :=
  ⟨"[[%(asctime)s] %(message)s"⟩

/-- The format of a value: the message alone where there is none, and otherwise a text that shows a field. -/
def ofValue (value : Value) : Except Failure Format :=
  if value.isPresent then
    match value with
    | .text text => if showsField text.toList then .ok ⟨text⟩ else .error (.invalidFormat text)
    | _ => .error .wrongType
  else .ok message

/-- The text of a record, unless the format is malformed, asks for a field that records lack or for the whole record
when that is used up, or converts one in a way it does not allow. -/
def render? (format : Format) (record : Record) : Option String := do
  let pieces ← Piece.ofText? format.text.toList
  let record := record.timed format.asksTime
  let shown ← Piece.render? record (some record.whole) pieces
  return record.withCause (String.ofList shown)

end Format

end ProofWire.Log
