import ProofWire.Proofs.Literal.Cause
import ProofWire.Proofs.Word.Exact

/-! Checked words: words that are made from the shortest bytes of a number, with a check of every width on the way. -/

namespace ProofWire

/-- The tools that words are made with: the shortest bytes of a natural number, and a check of the length of bytes. -/
structure WordTools where
  shortest : Nat → Bytes
  ofLength? : Nat → Bytes → Option Bytes

/-- Tools that do their work: bytes pass the check of a length unchanged when they have it, and only then. -/
structure WordTools.Lawful (tools : WordTools) : Prop where
  shortest : ∀ number, Word.IsShortest number (tools.shortest number)
  ofLength?_eq_some_iff : ∀ width content result,
    tools.ofLength? width content = some result ↔ content.length = width ∧ result = content

/-- The tools that take the shortest bytes as they are defined, and compare lengths. -/
def WordTools.exact : WordTools where
  shortest := Word.shortest
  ofLength? width content := if content.length = width then some content else none

/-- The exact tools do their work. -/
theorem WordTools.exact_lawful : exact.Lawful where
  -- The tools are defined by what the laws ask for.
  shortest := Word.isShortest_shortest
  ofLength?_eq_some_iff := by
    intro width content result
    simp only [exact, Option.ite_none_right_eq_some, Option.some.injEq]
    exact and_congr_right fun _ => eq_comm

/-- A failure for the sake of a width. -/
def Failure.IsWidth : Failure → Prop
  | .classified fault => fault.kind = .fieldWidthOverflow ∨ fault.kind = .invalidLength
  | .negativeWord => True
  | _ => False

namespace Failure

/-- Locating a failure does not make it one of a width. -/
theorem isWidth_mention {failure : Failure} {entries : Context} :
    (failure.mention entries).IsWidth ↔ failure.IsWidth := by
  -- A mention leaves the kind of a fault as it is.
  cases failure <;> exact Iff.rfl

/-- A cause of another kind raises no failure of a width. -/
theorem not_isWidth_raise {cause : Cause} (apart : cause.kind ∉ [FaultKind.fieldWidthOverflow, .invalidLength]) :
    ¬ cause.raise.IsWidth := by
  -- A failure has the kind of its cause, or it is no fault at all.
  rcases cause.raise_cases with ⟨message, raised⟩ | ⟨raised, _⟩
  · rw [raised]
    simpa [IsWidth] using apart
  · rw [raised]
    exact not_false

end Failure

/-- No literal is refused for the sake of a width. -/
theorem Literal.Refuses.not_isWidth {cause : Cause} (refuses : Literal.Refuses cause) : ¬ cause.raise.IsWidth := by
  -- The kinds of causes that refuse literals can be listed.
  apply Failure.not_isWidth_raise
  have apart : ∀ kind ∈ Literal.faultKinds, kind ∉ [FaultKind.fieldWidthOverflow, .invalidLength] := by decide
  exact apart _ refuses.kind_mem

/-- A value that denotes no number is not refused for the sake of a width. -/
theorem Value.not_isWidth_natural {source : Value} {failure : Failure} (failed : source.natural = .error failure) :
    ¬ failure.IsWidth := by
  obtain ⟨cause, refuses, rfl⟩ := Value.raised_natural failed
  exact refuses.not_isWidth

namespace Checked

/-- The ways in which a checked computation stops. -/
inductive Stop where
  /-- The input is refused for what it is. -/
  | refused (failure : Failure)
  /-- A number takes more bytes than a field word has. -/
  | wideNumber (number : Nat)
  /-- A number lies outside of the counts. -/
  | wideCount (number : Int)
  /-- A number has no unsigned bytes, or not in the width that is asked for. -/
  | unsigned (number : Int)
  /-- Bytes have another length than the one that is declared for them. -/
  | unfit (width : Nat) (content : Bytes)

/-- Bytes with a declared length. -/
def sized (tools : WordTools) (width : Nat) (content : Bytes) : Except Stop Bytes :=
  match tools.ofLength? width content with
  | some content => .ok content
  | none => .error (.unfit width content)

/-- The unsigned bytes of a whole number in a width. -/
def unsigned (width : Nat) (number : Int) : Except Stop Bytes :=
  if 0 ≤ number ∧ number < (256 ^ width : Nat) then .ok (Word.bytes width number.toNat)
  else .error (.unsigned number)

/-- The field word of a whole number: its shortest bytes behind zeros, if they have the width then. -/
def field (tools : WordTools) : Int → Except Stop Bytes
  | .ofNat number =>
    match tools.ofLength? Word.fieldSize ((tools.shortest number).leftpad Word.fieldSize 0) with
    | some word => .ok word
    | none => .error (.wideNumber number)
  | .negSucc predecessor => .error (.unsigned (.negSucc predecessor))

/-- The word of a whole number as a count, whose bounds are tested first. -/
def count (tools : WordTools) (number : Int) : Except Stop Bytes :=
  if 0 ≤ number ∧ number ≤ 0xffffffff then do
    let word ← unsigned Word.countSize number
    sized tools Word.countSize word
  else .error (.wideCount number)

variable {tools : WordTools}

/-- Bytes of the declared length pass. -/
theorem sized_of_length (lawful : tools.Lawful) {width : Nat} {content : Bytes} (length : content.length = width) :
    sized tools width content = .ok content := by
  have passed := (lawful.ofLength?_eq_some_iff width content content).mpr ⟨length, rfl⟩
  rw [sized, passed]

/-- A number that fits has its field word. -/
theorem field_of_fits (lawful : tools.Lawful) {number : Nat} (fits : number < Word.fieldBound) :
    field tools number = .ok (fieldWord number) := by
  -- The shortest bytes become the word behind zeros, which has the width.
  have padded := (lawful.shortest number).leftpad_eq (by decide : 0 < Word.fieldSize) fits
  have passed := (lawful.ofLength?_eq_some_iff Word.fieldSize _ _).mpr ⟨Word.length_bytes Word.fieldSize number, rfl⟩
  show field tools (Int.ofNat number) = _
  rw [field, padded, passed]

/-- A number below the bound of counts has its word. -/
theorem count_of_fits (lawful : tools.Lawful) {number : Nat} (fits : number < Word.countBound) :
    count tools number = .ok (Word.bytes Word.countSize number) := by
  -- Both checks let the number pass, and its word has four bytes.
  have bound : Word.countBound = 0x100000000 := by decide
  have within : 0 ≤ (number : Int) ∧ (number : Int) ≤ 0xffffffff := by omega
  have room : 0 ≤ (number : Int) ∧ (number : Int) < (256 ^ Word.countSize : Nat) :=
    ⟨within.1, Int.ofNat_lt.mpr fits⟩
  rw [count, if_pos within, unsigned, if_pos room, Int.toNat_natCast]
  exact sized_of_length lawful (Word.length_bytes Word.countSize number)

/-- A number from the bound of counts on stops the computation. -/
theorem count_of_many {number : Nat} (many : Word.countBound ≤ number) :
    count tools number = .error (.wideCount number) := by
  have bound : Word.countBound = 0x100000000 := by decide
  rw [count, if_neg (by omega)]

end Checked

end ProofWire
