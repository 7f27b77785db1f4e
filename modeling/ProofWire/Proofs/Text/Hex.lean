import ProofWire.Proofs.Text.Numeral

/-! Hexadecimal text: every spelling of some bytes reads back as those bytes. -/

namespace ProofWire

namespace Text

/-- Every written digit reads back as its value. -/
theorem hexValue?_hexDigit {value : Nat} (small : value < 16) : hexValue? (hexDigit value) = some value := by
  -- There are sixteen digits.
  revert value
  decide

/-- Different values have different digits. -/
theorem hexDigit_injOn {left right : Nat} (leftSmall : left < 16) (rightSmall : right < 16)
    (same : hexDigit left = hexDigit right) : left = right := by
  -- Each digit reads back as its value.
  have read := hexValue?_hexDigit leftSmall
  rw [same, hexValue?_hexDigit rightSmall] at read
  exact (Option.some.inj read).symm

/-- What takes every capital letter for its small one does not depend on the case of a character. -/
theorem toLower_congr {α : Type} (f : Char → α)
    (capitals : ∀ code ∈ List.range' 65 26, f (Char.ofNat code).toLower = f (Char.ofNat code)) (c : Char) :
    f c.toLower = f c := by
  by_cases upper : c.val ≥ 'A'.val ∧ c.val ≤ 'Z'.val
  · have member : c.toNat ∈ List.range' 65 26 := by
      have low : 65 ≤ c.toNat := upper.1
      have high : c.toNat ≤ 90 := upper.2
      exact List.mem_range'_1.mpr ⟨low, by omega⟩
    simpa only [Char.ofNat_toNat] using capitals c.toNat member
  · -- Every other character is its own lower case.
    have kept : c.toLower = c := by rw [Char.toLower, dif_neg upper]
    rw [kept]

/-- The case of a letter does not change the value of a digit. -/
theorem hexValue?_toLower (c : Char) : hexValue? c.toLower = hexValue? c :=
  toLower_congr hexValue? (by decide) c

/-- A byte is written as the digits of its halves, the high one first. -/
theorem hexOfBytes_cons (byte : UInt8) (rest : Bytes) :
    hexOfBytes (byte :: rest) =
      hexDigit (byte.toNat / 16) :: hexDigit (byte.toNat % 16) :: hexOfBytes rest := by
  -- A byte is below 256, so that its high half is one digit.
  have high : byte.toNat / 16 % 16 = byte.toNat / 16 := by
    have := byte.toNat_lt
    omega
  simp [hexOfBytes, hexDigits, high]

/-- The digits of two contents follow each other. -/
theorem hexOfBytes_append (front back : Bytes) : hexOfBytes (front ++ back) = hexOfBytes front ++ hexOfBytes back :=
  List.flatMap_append

/-- Bytes are written with two digits each. -/
theorem length_hexOfBytes (content : Bytes) : (hexOfBytes content).length = 2 * content.length := by
  -- Each byte adds two digits.
  induction content with
  | nil => rfl
  | cons byte rest ih =>
    rw [hexOfBytes_cons, List.length_cons, List.length_cons, List.length_cons, ih]
    omega

/-- The halves of a byte are values of digits. -/
theorem halves_lt (byte : UInt8) : byte.toNat / 16 < 16 ∧ byte.toNat % 16 < 16 := by
  have := byte.toNat_lt
  omega

/-- Written bytes read back. -/
theorem bytesOfHex?_hexOfBytes (content : Bytes) : bytesOfHex? (hexOfBytes content) = some content := by
  -- Two digits at a time give one byte.
  induction content with
  | nil => rfl
  | cons byte rest ih =>
    obtain ⟨high, low⟩ := halves_lt byte
    have whole : UInt8.ofNat (16 * (byte.toNat / 16) + byte.toNat % 16) = byte := by
      rw [Nat.div_add_mod, UInt8.ofNat_toNat]
    rw [hexOfBytes_cons]
    simp only [bytesOfHex?, hexValue?_hexDigit high, hexValue?_hexDigit low, ih, Option.bind_eq_bind,
      Option.bind_some, whole, Option.pure_def]

/-- Reading digits does not depend on the case of letters. -/
theorem bytesOfHex?_map_toLower (digits : List Char) :
    bytesOfHex? (digits.map Char.toLower) = bytesOfHex? digits := by
  -- Two digits are read at a time, each by its value.
  induction digits using bytesOfHex?.induct with
  | case1 => rfl
  | case2 c => rfl
  | case3 high low rest ih => simp [bytesOfHex?, hexValue?_toLower, ih]

/-- Every character of written bytes is a digit. -/
theorem isHexDigit_of_mem_hexOfBytes {content : Bytes} :
    ∀ c ∈ hexOfBytes content, isHexDigit c = true := by
  -- Each half of a byte is below sixteen.
  induction content with
  | nil => simp [hexOfBytes]
  | cons byte rest ih =>
    obtain ⟨high, low⟩ := halves_lt byte
    rw [hexOfBytes_cons]
    intro c member
    rcases List.mem_cons.mp member with rfl | member
    · simp [isHexDigit, hexValue?_hexDigit high]
    · rcases List.mem_cons.mp member with rfl | member
      · simp [isHexDigit, hexValue?_hexDigit low]
      · exact ih c member

/-- Digits hold no mark, so none is dropped from them. -/
theorem dropMark_of_isHexDigit {digits : List Char} (all : ∀ c ∈ digits, isHexDigit c = true) :
    dropMark digits = digits := by
  -- The letter of a mark is no digit.
  unfold dropMark
  split
  · exact absurd (all 'x' (by simp)) (by decide)
  · exact absurd (all 'X' (by simp)) (by decide)
  · rfl

/-- What may precede the digits of bytes. -/
def marks : List (List Char) :=
  [[], ['0', 'x'], ['0', 'X']]

/-- No mark holds a blank. -/
theorem isBlank_of_mem_marks : ∀ mark ∈ marks, ∀ c ∈ mark, isBlank c = false := by
  simp only [marks, List.forall_mem_cons, List.not_mem_nil, false_implies, implies_true, and_true, true_and]
  decide

/-- Text spells bytes: their digits in any case, after a mark or none, with blanks around them. -/
inductive Spells (text : String) (content : Bytes) : Prop where
  | padded (front mark digits back : List Char) (laid : text.toList = front ++ (mark ++ digits) ++ back)
    (frontBlank : ∀ c ∈ front, isBlank c = true) (backBlank : ∀ c ∈ back, isBlank c = true)
    (marked : mark ∈ marks)
    (cased : digits.map Char.toLower = hexOfBytes content)

/-- Digits that spell bytes in any case are digits. -/
theorem isHexDigit_of_cased {digits : List Char} {content : Bytes}
    (cased : digits.map Char.toLower = hexOfBytes content) : ∀ c ∈ digits, isHexDigit c = true := by
  -- A character is a digit when its small letter is.
  intro c member
  have written : c.toLower ∈ hexOfBytes content := cased ▸ List.mem_map_of_mem member
  simpa only [isHexDigit, hexValue?_toLower] using isHexDigit_of_mem_hexOfBytes _ written

/-- Neither a mark nor the digits behind it hold blanks. -/
theorem isBlank_of_mem_marked {mark digits : List Char} {content : Bytes} (marked : mark ∈ marks)
    (cased : digits.map Char.toLower = hexOfBytes content) : ∀ c ∈ mark ++ digits, isBlank c = false := by
  -- Marks and digits are checked apart.
  intro c member
  rcases List.mem_append.mp member with inMark | inDigits
  · exact isBlank_of_mem_marks mark marked c inMark
  · exact isBlank_of_isHexDigit (isHexDigit_of_cased cased c inDigits)

/-- Digits in another case are the written digits again in small letters. -/
theorem map_toLower_hexOfBytes (recase : Char → Char)
    (kept : ∀ value < 16, (recase (hexDigit value)).toLower = hexDigit value) (content : Bytes) :
    ((hexOfBytes content).map recase).map Char.toLower = hexOfBytes content := by
  -- Each digit stands for a half of a byte, and there the change of case is undone.
  induction content with
  | nil => rfl
  | cons byte rest ih =>
    obtain ⟨high, low⟩ := halves_lt byte
    simp only [hexOfBytes_cons, List.map_cons, kept _ high, kept _ low, ih]

/-- No written digit is a capital letter. -/
theorem toLower_hexOfBytes (content : Bytes) : (hexOfBytes content).map Char.toLower = hexOfBytes content := by
  have lower := map_toLower_hexOfBytes id (by decide) content
  rwa [List.map_id] at lower

/-- The written text of bytes spells them. -/
theorem spells_hexText (content : Bytes) : Spells (Encode.hexText content) content :=
  .padded [] [] (hexOfBytes content) [] (by simp [Encode.hexText]) (by simp) (by simp) (by simp [marks])
    (toLower_hexOfBytes content)

end Text

/-- Every spelling of some bytes is read as those bytes. -/
theorem Decode.hexText_of_spells {text : String} {content : Bytes} (spelled : Text.Spells text content) :
    Decode.hexText text = .ok content := by
  obtain ⟨front, mark, digits, back, laid, frontBlank, backBlank, marked, cased⟩ := spelled
  -- Digits stay digits in either case, so neither the blanks nor the mark take any of them away.
  have all := Text.isHexDigit_of_cased cased
  have solid := Text.isBlank_of_mem_marked marked cased
  have unmarked : Text.dropMark (Text.dropMark (mark ++ digits)) = digits := by
    simp only [Text.marks, List.mem_cons, List.not_mem_nil, or_false] at marked
    rcases marked with rfl | rfl | rfl
    · simp [Text.dropMark_of_isHexDigit all]
    · exact Text.dropMark_of_isHexDigit all
    · exact Text.dropMark_of_isHexDigit all
  have read : Text.bytesOfHex? digits = some content := by
    rw [← Text.bytesOfHex?_map_toLower, cased, Text.bytesOfHex?_hexOfBytes]
  have stripped := Text.strip_of_trims (Text.trims_of_solid frontBlank solid backBlank)
  simp only [Decode.hexText, laid, stripped, unmarked, read]

end ProofWire
