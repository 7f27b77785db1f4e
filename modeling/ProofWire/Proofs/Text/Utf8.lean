import ProofWire.Disk.Basic
import ProofWire.Proofs.Text.Hex

/-! Text in files: ASCII text is decoded from its bytes, and line ends of every kind are blank. -/

namespace ProofWire

namespace Text

/-- Characters below the first non-ASCII one, one byte each. -/
def asciiBytes (text : List Char) : List UInt8 :=
  text.map fun c => UInt8.ofNat c.toNat

/-- The byte of an ASCII character leads back to it. -/
theorem toNat_asciiByte {c : Char} (ascii : c.toNat < 0x80) : (UInt8.ofNat c.toNat).toNat = c.toNat := by
  rw [UInt8.toNat_ofNat']
  exact Nat.mod_eq_of_lt (by omega)

/-- An ASCII byte is the character of its code. -/
theorem firstStep_ascii {c : Char} (ascii : c.toNat < 0x80) (rest : List UInt8) :
    firstStep (UInt8.ofNat c.toNat) rest = .char c rest := by
  -- A code below the first bound stands for itself.
  have code := toNat_asciiByte ascii
  have small : UInt8.ofNat c.toNat < 0x80 := by
    rw [UInt8.lt_iff_toNat_lt, code]
    exact ascii
  rw [firstStep, if_pos small, code, Char.ofNat_toNat]

/-- ASCII text is decoded from its bytes. -/
theorem decodeUtf8_ascii {text : List Char} (ascii : ∀ c ∈ text, c.toNat < 0x80) :
    decodeUtf8 (asciiBytes text) = .ok text := by
  -- Each character takes one byte, whatever the position.
  have general : ∀ (text : List Char) (position : Nat), (∀ c ∈ text, c.toNat < 0x80) →
      decodeFrom text.length position (asciiBytes text) = .ok text := by
    intro text
    induction text with
    | nil =>
      intro position _
      rfl
    | cons c rest ih =>
      intro position ascii
      obtain ⟨first, later⟩ := List.forall_mem_cons.mp ascii
      have split : asciiBytes (c :: rest) = UInt8.ofNat c.toNat :: asciiBytes rest := rfl
      rw [split, List.length_cons, decodeFrom, firstStep_ascii first]
      simp only [ih _ later]
      rfl
  have length : (asciiBytes text).length = text.length := List.length_map _
  rw [decodeUtf8, length]
  exact general text 0 ascii

/-- Text without carriage returns keeps its line ends. -/
theorem unifyNewlines_of_plain {text : List Char} (plain : ∀ c ∈ text, c ≠ '\r') :
    unifyNewlines text = text := by
  -- Only a carriage return is replaced.
  induction text with
  | nil => rfl
  | cons c rest ih =>
    obtain ⟨first, later⟩ := List.forall_mem_cons.mp plain
    have apart : (c == '\r') = false := by simpa using first
    unfold unifyNewlines
    split
    next empty => cases empty
    next other same => exact absurd (List.cons.inj same).1 first
    next other others _ same =>
      obtain ⟨rfl, rfl⟩ := List.cons.inj same
      rw [ih later, apart]
      rfl

/-- Line ends are unified part by part, unless a pair of them is cut. -/
theorem unifyNewlines_append {front : List Char} {back : List Char}
    (whole : front.getLast? = some '\r' → back.head? ≠ some '\n') :
    unifyNewlines (front ++ back) = unifyNewlines front ++ unifyNewlines back := by
  have last : ∀ (c : Char) (rest : List Char), rest.getLast? = some '\r' → (c :: rest).getLast? = some '\r' := by
    intro c rest ends
    rw [List.getLast?_cons, ends]
    rfl
  induction front using unifyNewlines.induct with
  | case1 => rfl
  | case2 rest ih =>
    simp only [List.cons_append, unifyNewlines, ih fun ends => whole (last _ _ (last _ _ ends))]
  | case3 c rest single ih =>
    -- The front does not start with a pair, and the back does not complete one.
    have apart : ∀ tail, c = '\r' → rest ++ back = '\n' :: tail → False := by
      intro tail carriage split
      cases rest with
      | nil => exact whole (by rw [carriage]; rfl) (by rw [← List.nil_append back, split]; rfl)
      | cons next others => exact single others carriage (by rw [(List.cons.inj split).1])
    rw [List.cons_append, unifyNewlines, unifyNewlines, ih fun ends => whole (last _ _ ends), List.cons_append]
    · exact single
    · exact apart

/-- Blanks stay blank when their line ends are unified. -/
theorem isBlank_of_mem_unifyNewlines {text : List Char} (blank : ∀ c ∈ text, isBlank c = true) :
    ∀ c ∈ unifyNewlines text, isBlank c = true := by
  -- A line end is a blank, and nothing else is put in.
  have feed : isBlank '\n' = true := by decide
  induction text using unifyNewlines.induct with
  | case1 => exact blank
  | case2 rest ih =>
    obtain ⟨_, later⟩ := List.forall_mem_cons.mp blank
    rw [unifyNewlines]
    exact List.forall_mem_cons.mpr ⟨feed, ih (List.forall_mem_cons.mp later).2⟩
  | case3 c rest single ih =>
    obtain ⟨first, later⟩ := List.forall_mem_cons.mp blank
    rw [unifyNewlines]
    · refine List.forall_mem_cons.mpr ⟨?_, ih later⟩
      split
      · exact feed
      · exact first
    · exact single

/-- Text goes on spelling the same bytes when its line ends are unified. -/
theorem spells_unifyNewlines {text : List Char} {content : List UInt8}
    (spelled : Spells (String.ofList text) content) : Spells (String.ofList (unifyNewlines text)) content := by
  obtain ⟨front, mark, digits, back, laid, frontBlank, backBlank, marked, cased⟩ := spelled
  rw [String.toList_ofList] at laid
  have solid := isBlank_of_mem_marked marked cased
  have apart : ∀ c, isBlank c = true → c ∉ mark ++ digits := by
    intro c blank member
    cases blank.symm.trans (solid c member)
  by_cases empty : mark ++ digits = []
  · -- Without digits there are only blanks.
    have blank : ∀ c ∈ front ++ back, isBlank c = true := by
      intro c member
      exact (List.mem_append.mp member).elim (frontBlank c) (backBlank c)
    have nothing : digits = [] := (List.append_eq_nil_iff.mp empty).2
    refine .padded (unifyNewlines (front ++ back)) [] [] [] ?_ (isBlank_of_mem_unifyNewlines blank) (by simp)
      (by simp [marks]) (by rw [← cased, nothing])
    rw [laid, empty, String.toList_ofList]
    simp
  · -- The characters in the middle are no line ends, so the blanks on either side are unified on their own.
    have plain : unifyNewlines (mark ++ digits) = mark ++ digits :=
      unifyNewlines_of_plain fun c member same => apart '\r' (by decide) (same ▸ member)
    have first : (mark ++ digits ++ back).head? ≠ some '\n' := by
      intro feed
      rw [List.head?_append_of_ne_nil _ empty] at feed
      exact apart '\n' (by decide) (List.mem_of_head? feed)
    have last : (mark ++ digits).getLast? ≠ some '\r' :=
      fun carriage => apart '\r' (by decide) (List.mem_of_getLast? carriage)
    refine .padded (unifyNewlines front) mark digits (unifyNewlines back) ?_
      (isBlank_of_mem_unifyNewlines frontBlank) (isBlank_of_mem_unifyNewlines backBlank) marked cased
    rw [String.toList_ofList, laid, List.append_assoc, unifyNewlines_append fun _ => first,
      unifyNewlines_append fun ends => absurd ends last, plain, ← List.append_assoc]

/-- Digits that spell bytes are ASCII text. -/
theorem ascii_of_cased {digits : List Char} {content : List UInt8}
    (cased : digits.map Char.toLower = hexOfBytes content) : ∀ c ∈ digits, c.toNat < 0x80 := by
  -- Digits of either case are ASCII.
  intro c member
  have code := toNat_of_isHexDigit (isHexDigit_of_cased cased c member)
  omega

end Text

end ProofWire
