import ProofWire.Proofs.Literal.Grammar
import ProofWire.Proofs.Outcome
import ProofWire.Proofs.Text.Blank

/-! Hexadecimal form: which texts are read as bytes, and that reading undoes writing in any case and between blanks. -/

namespace ProofWire

/-- The fault of text that is not in hexadecimal form. -/
def Fault.malformedHex (length : Nat) : Fault :=
  ⟨.malformedLiteral, s!"invalid hex string ({length} chars)", []⟩

namespace Text

/-- Pairs of digits of either case, and the bytes that they denote. -/
inductive Pairs : List Char → Bytes → Prop where
  | nil : Pairs [] []
  | cons {high low : Char} {digits : List Char} {content : Bytes} (highDigit : high ∈ hexAlphabet)
    (lowDigit : low ∈ hexAlphabet) (rest : Pairs digits content) :
    Pairs (high :: low :: digits) (UInt8.ofNat (16 * digitValue high + digitValue low) :: content)

/-- Text in hexadecimal form: two marks, one or none before pairs of digits. -/
inductive HexForm : List Char → Bytes → Prop where
  | marked {first second digits : List Char} {content : Bytes} (firstMark : first ∈ marks)
    (secondMark : second ∈ marks) (pairs : Pairs digits content) : HexForm (first ++ second ++ digits) content

/--
A text in small letters.

ASCII characters have their usual small letters, and the dotted capital i becomes two characters. Any other character
becomes one, which is neither a digit nor the letter of a mark.
-/
inductive Lowered : List Char → List Char → Prop where
  | nil : Lowered [] []
  | ascii {c : Char} {text lower : List Char} (ascii : c.toNat < 0x80) (rest : Lowered text lower) :
    Lowered (c :: text) (c.toLower :: lower)
  | dotted {text lower : List Char} (rest : Lowered text lower) :
    Lowered (Char.ofNat 0x130 :: text) ('i' :: Char.ofNat 0x307 :: lower)
  | foreign {c small : Char} {text lower : List Char} (foreign : 0x80 ≤ c.toNat) (dotless : c ≠ Char.ofNat 0x130)
    (apart : small ∉ hexAlphabet ++ ['x', 'X']) (rest : Lowered text lower) : Lowered (c :: text) (small :: lower)

/-- The members of the alphabet are the digits, and their values are the ones that are read. -/
theorem hexValue?_eq_some_iff {c : Char} {value : Nat} :
    hexValue? c = some value ↔ c ∈ hexAlphabet ∧ digitValue c = value := by
  -- The twenty-two digits are checked one by one.
  have values : (hexAlphabet.all fun c => hexValue? c == some (digitValue c)) = true := by decide
  constructor
  · intro read
    have member : c ∈ hexAlphabet := (isHexDigit_iff_mem c).mp (by rw [isHexDigit, read]; rfl)
    have known := beq_iff_eq.mp (List.all_eq_true.mp values c member)
    exact ⟨member, Option.some.inj (known.symm.trans read)⟩
  · rintro ⟨member, rfl⟩
    exact beq_iff_eq.mp (List.all_eq_true.mp values c member)

/-- Exactly the pairs of digits are read, as the bytes that they denote. -/
theorem bytesOfHex?_eq_some_iff {digits : List Char} {content : Bytes} :
    bytesOfHex? digits = some content ↔ Pairs digits content := by
  -- Two digits are read at a time.
  induction digits using bytesOfHex?.induct generalizing content with
  | case1 =>
    constructor
    · intro read
      cases read
      exact .nil
    · intro pairs
      cases pairs
      rfl
  | case2 c =>
    constructor
    · intro read
      cases read
    · intro pairs
      cases pairs
  | case3 high low rest ih =>
    constructor
    · intro read
      obtain ⟨highValue, highRead, read⟩ := Option.bind_eq_some_iff.mp read
      obtain ⟨lowValue, lowRead, read⟩ := Option.bind_eq_some_iff.mp read
      obtain ⟨others, othersRead, done⟩ := Option.bind_eq_some_iff.mp read
      obtain ⟨highDigit, rfl⟩ := hexValue?_eq_some_iff.mp highRead
      obtain ⟨lowDigit, rfl⟩ := hexValue?_eq_some_iff.mp lowRead
      cases done
      exact .cons highDigit lowDigit (ih.mp othersRead)
    · intro pairs
      cases pairs with
      | cons highDigit lowDigit others =>
        have highRead := hexValue?_eq_some_iff.mpr ⟨highDigit, rfl⟩
        have lowRead := hexValue?_eq_some_iff.mpr ⟨lowDigit, rfl⟩
        simp only [bytesOfHex?, highRead, lowRead, ih.mpr others, Option.bind_eq_bind, Option.bind_some,
          Option.pure_def]

/-- All characters of pairs are digits. -/
theorem Pairs.isHexDigit {digits : List Char} {content : Bytes} (pairs : Pairs digits content) :
    ∀ c ∈ digits, isHexDigit c = true := by
  -- Both digits of each pair are in the alphabet.
  induction pairs with
  | nil => exact List.forall_mem_nil _
  | cons highDigit lowDigit _ ih =>
    exact List.forall_mem_cons.mpr ⟨(isHexDigit_iff_mem _).mpr highDigit,
      List.forall_mem_cons.mpr ⟨(isHexDigit_iff_mem _).mpr lowDigit, ih⟩⟩

/-- A mark in front of a text is dropped, and nothing else is. -/
theorem dropMark_cases (text : List Char) :
    (∃ letter ∈ ['x', 'X'], ∃ rest, text = '0' :: letter :: rest ∧ dropMark text = rest) ∨
      ((∀ letter ∈ ['x', 'X'], ∀ rest, text ≠ '0' :: letter :: rest) ∧ dropMark text = text) := by
  -- The letter of the mark may be of either case.
  unfold dropMark
  split
  · exact Or.inl ⟨'x', by simp, _, rfl, rfl⟩
  · exact Or.inl ⟨'X', by simp, _, rfl, rfl⟩
  · rename_i small capital
    refine Or.inr ⟨?_, rfl⟩
    intro letter member rest same
    simp only [List.mem_cons, List.not_mem_nil, or_false] at member
    rcases member with rfl | rfl
    · exact small rest same
    · exact capital rest same

/-- Text with a character that is no digit is not read. -/
theorem bytesOfHex?_eq_none {digits : List Char} (foreign : ¬ ∀ c ∈ digits, isHexDigit c = true) :
    bytesOfHex? digits = none :=
  Option.eq_none_iff_forall_ne_some.mpr fun _ read => foreign (bytesOfHex?_eq_some_iff.mp read).isHexDigit

/-- A zero and the letter of a mark are a mark. -/
theorem mem_marks {letter : Char} (member : letter ∈ ['x', 'X']) : ['0', letter] ∈ marks := by
  simp only [List.mem_cons, List.not_mem_nil, or_false] at member
  rcases member with rfl | rfl <;> simp [marks]

/-- Whatever has the small letters of a mark is a mark. -/
theorem mark_of_toLower {zero letter : Char} (isZero : zero.toLower = '0') (isLetter : letter.toLower ∈ ['x', 'X']) :
    zero = '0' ∧ letter ∈ ['x', 'X'] := by
  -- No capital letter becomes a zero, and only that of a mark becomes its small one.
  have digit := toLower_congr (fun c => decide (c = '0')) (by decide) zero
  have mark := toLower_congr (fun c => decide (c ∈ ['x', 'X'])) (by decide) letter
  exact ⟨by simpa [isZero] using digit, of_decide_eq_true (mark.symm.trans (decide_eq_true isLetter))⟩

/-- What is dropped is a mark or nothing. -/
theorem exists_mark (text : List Char) : ∃ mark ∈ marks, text = mark ++ dropMark text := by
  -- A mark is a zero and one of two letters.
  rcases dropMark_cases text with ⟨letter, member, rest, rfl, dropped⟩ | ⟨_, kept⟩
  · exact ⟨['0', letter], mem_marks member, by rw [dropped]; rfl⟩
  · exact ⟨[], by simp [marks], by rw [kept]; rfl⟩

/-- A mark in front is dropped, whatever stands behind it. -/
theorem dropMark_append {mark : List Char} (marked : mark ∈ marks) (text : List Char) :
    mark = [] ∨ dropMark (mark ++ text) = text := by
  -- There are three marks, one of them empty.
  simp only [marks, List.mem_cons, List.not_mem_nil, or_false] at marked
  rcases marked with rfl | rfl | rfl
  · exact Or.inl rfl
  · exact Or.inr rfl
  · exact Or.inr rfl

/-- Two marks before digits are dropped one by one. -/
theorem dropMark_dropMark {first second digits : List Char} (firstMark : first ∈ marks) (secondMark : second ∈ marks)
    (all : ∀ c ∈ digits, isHexDigit c = true) : dropMark (dropMark (first ++ second ++ digits)) = digits := by
  -- Where there is no mark to drop, the digits stay as they are.
  have kept := dropMark_of_isHexDigit all
  rw [List.append_assoc]
  rcases dropMark_append firstMark (second ++ digits) with rfl | dropped
  · rcases dropMark_append secondMark digits with rfl | dropped
    · rw [List.nil_append, List.nil_append, kept, kept]
    · rw [List.nil_append, dropped, kept]
  · rw [dropped]
    rcases dropMark_append secondMark digits with rfl | dropped
    · rw [List.nil_append, kept]
    · exact dropped

/-- Text in hexadecimal form is text whose digits are read behind what may precede them. -/
theorem hexForm_iff {text : List Char} {content : Bytes} :
    HexForm text content ↔ bytesOfHex? (dropMark (dropMark text)) = some content := by
  -- Where a mark is missing nothing is dropped, which counts as a mark without characters.
  constructor
  · rintro ⟨firstMark, secondMark, pairs⟩
    rw [dropMark_dropMark firstMark secondMark pairs.isHexDigit]
    exact bytesOfHex?_eq_some_iff.mpr pairs
  · intro read
    obtain ⟨first, firstMark, outer⟩ := exists_mark text
    obtain ⟨second, secondMark, inner⟩ := exists_mark (dropMark text)
    rw [outer, inner, ← List.append_assoc]
    exact .marked firstMark secondMark (bytesOfHex?_eq_some_iff.mp read)

namespace Lowered

variable {c small : Char} {text lower : List Char}

/-- A character that takes no part in hexadecimal form may stand for itself. -/
theorem not_mem_of_foreign (foreign : 0x80 ≤ c.toNat) : c ∉ hexAlphabet ++ ['x', 'X'] := by
  -- Form and marks are ASCII.
  have ascii : (hexAlphabet ++ ['x', 'X']).all (fun c => c.toNat < 0x80) = true := by decide
  intro member
  have bound := of_decide_eq_true (List.all_eq_true.mp ascii c member)
  omega

/-- Every text has a form in small letters. -/
theorem exists_lowered (text : List Char) : ∃ lower, Lowered text lower := by
  -- The characters go one by one, and the foreign ones may stay as they are.
  induction text with
  | nil => exact ⟨[], .nil⟩
  | cons c text ih =>
    obtain ⟨lower, rest⟩ := ih
    by_cases ascii : c.toNat < 0x80
    · exact ⟨_, .ascii ascii rest⟩
    · have foreign := Nat.le_of_not_lt ascii
      by_cases dotless : c = Char.ofNat 0x130
      · rw [dotless]
        exact ⟨_, .dotted rest⟩
      · exact ⟨_, .foreign foreign dotless (not_mem_of_foreign foreign) rest⟩

/-- The length in small letters does not depend on what becomes of foreign ones. -/
theorem length (lowered : Lowered text lower) : lower.length = lowerLength text := by
  -- One letter becomes two in small letters, and every other one stays one.
  unfold lowerLength
  induction lowered with
  | nil => rfl
  | @ascii c text lower ascii _ ih =>
    have dotless : c ≠ Char.ofNat 0x130 := by
      rintro rfl
      exact absurd ascii (by decide)
    rw [List.count_cons_of_ne dotless]
    simp only [List.length_cons]
    omega
  | dotted _ ih =>
    rw [List.count_cons_self]
    simp only [List.length_cons]
    omega
  | foreign _ dotless _ _ ih =>
    rw [List.count_cons_of_ne dotless]
    simp only [List.length_cons]
    omega

/-- An ASCII character has its small letter in front of the rest. -/
theorem of_ascii (lowered : Lowered (c :: text) lower) (ascii : c.toNat < 0x80) :
    ∃ others, lower = c.toLower :: others ∧ Lowered text others := by
  -- Of the ways to become small only the first is for ASCII.
  generalize given : c :: text = whole at lowered
  cases lowered with
  | nil => cases given
  | ascii _ rest =>
    cases given
    exact ⟨_, rfl, rest⟩
  | dotted rest =>
    cases given
    exact absurd ascii (by decide)
  | foreign foreign _ _ rest =>
    cases given
    omega

/-- A digit or the letter of a mark comes from an ASCII character. -/
theorem of_small (lowered : Lowered text (small :: lower)) (member : small ∈ hexAlphabet ++ ['x', 'X']) :
    ∃ c others, text = c :: others ∧ c.toLower = small ∧ Lowered others lower := by
  -- The dot that a small letter may leave behind is no digit, and foreign letters stay away by assumption.
  cases lowered with
  | ascii ascii rest => exact ⟨_, _, rfl, rfl, rest⟩
  | dotted rest => exact absurd member (by decide)
  | foreign _ _ apart rest => exact absurd member apart

/-- A mark that starts a text starts it in small letters, too, and only then. -/
theorem dropMark (lowered : Lowered text lower) : Lowered (dropMark text) (Text.dropMark lower) := by
  -- Both characters of a mark are ASCII, and nothing else turns into them.
  rcases dropMark_cases text with ⟨letter, member, rest, rfl, dropped⟩ | ⟨unmarked, kept⟩
  · obtain ⟨_, rfl, inner⟩ := lowered.of_ascii (by decide)
    simp only [List.mem_cons, List.not_mem_nil, or_false] at member
    rcases member with rfl | rfl
    · obtain ⟨others, rfl, outer⟩ := inner.of_ascii (by decide)
      exact outer
    · obtain ⟨others, rfl, outer⟩ := inner.of_ascii (by decide)
      exact outer
  · rw [kept]
    rcases dropMark_cases lower with ⟨letter, member, rest, rfl, _⟩ | ⟨_, keptLower⟩
    · -- The letters of the mark would come from one that the text does not have.
      obtain ⟨zero, _, rfl, isZero, inner⟩ := lowered.of_small (by decide)
      obtain ⟨other, _, rfl, rfl, _⟩ := inner.of_small (List.mem_append_right _ member)
      obtain ⟨rfl, marked⟩ := mark_of_toLower isZero member
      exact absurd rfl (unmarked other marked _)
    · rwa [keptLower]

/-- A text is all digits exactly when it is so in small letters. -/
theorem digits_iff (lowered : Lowered text lower) :
    (∀ c ∈ lower, isHexDigit c = true) ↔ ∀ c ∈ text, isHexDigit c = true := by
  -- A foreign letter is no digit, nor is what it becomes.
  induction lowered with
  | nil => exact Iff.rfl
  | ascii _ _ ih => rw [List.forall_mem_cons, List.forall_mem_cons, ih, isHexDigit, hexValue?_toLower, isHexDigit]
  | dotted _ ih =>
    refine ⟨fun all => absurd (all 'i' List.mem_cons_self) (by decide), fun all => ?_⟩
    exact absurd (all _ List.mem_cons_self) (by decide)
  | foreign foreign _ apart _ ih =>
    have unread : ∀ c, c ∉ hexAlphabet ++ ['x', 'X'] → ¬ isHexDigit c = true := fun c apart digit =>
      apart (List.mem_append_left _ ((isHexDigit_iff_mem c).mp digit))
    refine ⟨fun all => absurd (all _ List.mem_cons_self) (unread _ apart), fun all => ?_⟩
    exact absurd (all _ List.mem_cons_self) (unread _ (not_mem_of_foreign foreign))

/-- The small letters of ASCII text are the usual ones throughout. -/
theorem eq_map_toLower (lowered : Lowered text lower) (ascii : ∀ c ∈ text, c.toNat < 0x80) :
    lower = text.map Char.toLower := by
  -- Without foreign letters each character is made small by itself.
  induction lowered with
  | nil => rfl
  | ascii _ _ ih => rw [ih (List.forall_mem_cons.mp ascii).2, List.map_cons]
  | dotted => exact absurd (ascii _ List.mem_cons_self) (by decide)
  | foreign foreign => exact absurd (ascii _ List.mem_cons_self) (Nat.not_lt.mpr foreign)

/-- A text reads as the same bytes in small letters. -/
theorem bytesOfHex?_eq (lowered : Lowered text lower) : bytesOfHex? lower = bytesOfHex? text := by
  by_cases all : ∀ c ∈ text, isHexDigit c = true
  · have ascii : ∀ c ∈ text, c.toNat < 0x80 := by
      intro c member
      have code := toNat_of_isHexDigit (all c member)
      omega
    rw [lowered.eq_map_toLower ascii, bytesOfHex?_map_toLower]
  · -- Neither of them is all digits.
    rw [bytesOfHex?_eq_none all, bytesOfHex?_eq_none (mt lowered.digits_iff.mp all)]

end Lowered

/-- What spells a mark and digits in either case begins with a mark. -/
theorem exists_mark_of_cased {recased digits : List Char} (cased : recased.map Char.toLower = '0' :: 'x' :: digits) :
    ∃ mark ∈ marks, ∃ rest, recased = mark ++ rest ∧ rest.map Char.toLower = digits := by
  -- The first two characters have the small letters of a mark.
  obtain ⟨zero, inner, rfl, isZero, innerCased⟩ := List.map_eq_cons_iff.mp cased
  obtain ⟨letter, rest, rfl, isLetter, same⟩ := List.map_eq_cons_iff.mp innerCased
  have member : letter.toLower ∈ ['x', 'X'] := by
    rw [isLetter]
    exact List.mem_cons_self
  obtain ⟨rfl, marked⟩ := mark_of_toLower isZero member
  exact ⟨['0', letter], mem_marks marked, rest, rfl, same⟩

end Text

/-- Reading takes the text in small letters, drops up to two marks from it and tells its length after the first. -/
theorem Decode.hexText_of_lowered {source : String} {lower : List Char}
    (lowered : Text.Lowered (Text.strip source.toList) lower) :
    Decode.hexText source =
      match Text.bytesOfHex? (Text.dropMark (Text.dropMark lower)) with
      | some content => .ok content
      | none => .error (.classified (Fault.malformedHex (Text.dropMark lower).length)) := by
  -- Dropping a mark and lowering commute, and neither the bytes nor the length depend on the foreign letters.
  rw [lowered.dropMark.dropMark.bytesOfHex?_eq, lowered.dropMark.length]
  rfl

namespace Decode

/-- What reading a text as bytes comes to, in terms of what stands between its blanks. -/
structure HexReading (source : String) (text : List Char) : Prop where
  trims : Text.Trims source.toList text
  accepts : ∀ content, Decode.bytes (.text source) = .ok content ↔ Text.HexForm text content
  refuses : (∀ content, ¬ Text.HexForm text content) → ∀ lower, Text.Lowered text lower →
    Decode.bytes (.text source) = .error (.classified (Fault.malformedHex (Text.dropMark lower).length))

/-- Each text has its reading. -/
theorem hexReading_strip (source : String) : HexReading source (Text.strip source.toList) where
  trims := Text.trims_strip source.toList
  accepts := by
    -- The grammar is the one of the reader without its blanks.
    intro content
    rw [Text.hexForm_iff]
    show hexText source = _ ↔ _
    unfold hexText
    dsimp only
    split
    · rename_i read done
      rw [done, Except.ok.injEq, Option.some.injEq]
    · rename_i done
      rw [done]
      constructor
      · intro read
        cases read
      · intro read
        cases read
  refuses := by
    intro formless lower lowered
    show hexText source = _
    have unread : Text.bytesOfHex? (Text.dropMark (Text.dropMark lower)) = none := by
      rw [lowered.dropMark.dropMark.bytesOfHex?_eq]
      exact Option.eq_none_iff_forall_ne_some.mpr fun content read => formless content (Text.hexForm_iff.mpr read)
    rw [hexText_of_lowered lowered, unread]

/--
Reading a text as bytes accepts exactly hexadecimal form between blanks, and it undoes writing.

Every other text is refused by one fault, which tells the length of the text in small letters without its first mark.
Bytes are read as they are, and so is their text in whatever case, with its mark or without it and with blanks around.
-/
theorem hex_reading_exact (source : String) (content : Bytes) :
    (∃ text, HexReading source text ∧ ∃ lower, Text.Lowered text lower)
      ∧ bytes (.bytes content) = .ok content
      ∧ ∀ written ∈ [markedText content, Encode.hexText content], ∀ front recased back : List Char,
        recased.map Char.toLower = written.toList → (∀ c ∈ front, Text.isBlank c = true) →
        (∀ c ∈ back, Text.isBlank c = true) →
        bytes (.text (String.ofList (front ++ recased ++ back))) = .ok content := by
  refine ⟨⟨_, hexReading_strip source, Text.Lowered.exists_lowered _⟩, rfl, ?_⟩
  intro written member front recased back cased frontBlank backBlank
  apply hexText_of_spells
  simp only [List.mem_cons, List.not_mem_nil, or_false] at member
  rcases member with rfl | rfl
  · -- The mark may have its letter in the other case, too.
    have marked : (markedText content).toList = '0' :: 'x' :: Text.hexOfBytes content := by
      simp [markedText, Encode.hexText]
    obtain ⟨mark, marking, digits, rfl, same⟩ := Text.exists_mark_of_cased (cased.trans marked)
    exact .padded front mark digits back String.toList_ofList frontBlank backBlank marking same
  · have digits : (Encode.hexText content).toList = Text.hexOfBytes content := String.toList_ofList
    exact .padded front [] recased back String.toList_ofList frontBlank backBlank (by simp [Text.marks])
      (cased.trans digits)

/-- Text with two marks is read, text with three is refused, and what is written is read in another case. -/
theorem hex_reading_exact_marks :
    bytes (.text " 0x0XaB") = .ok [0xab]
      ∧ bytes (.text "0x0x0X") = .error (.classified (Fault.malformedHex 4))
      ∧ bytes (.text " 0XDe") = .ok [0xde] := by
  obtain ⟨⟨twice, reading, _⟩, _, recased⟩ := hex_reading_exact " 0x0XaB" [0xde]
  obtain ⟨⟨thrice, refusal, lower, lowered⟩, _, _⟩ := hex_reading_exact "0x0x0X" []
  -- The first text loses two marks and is read; the second one has letters left behind them.
  refine ⟨(reading.accepts [0xab]).mpr ?_, ?_, ?_⟩
  · rw [Text.trims_iff.mp reading.trims, Text.hexForm_iff]
    rfl
  · have same := Text.trims_iff.mp refusal.trims
    rw [refusal.refuses (fun content form => ?_) lower lowered, lowered.dropMark.length, same]
    · rfl
    · rw [same, Text.hexForm_iff] at form
      cases form
  · exact recased (markedText [0xde]) (by simp) [' '] ['0', 'X', 'D', 'e'] [] (by rfl)
      (List.forall_mem_singleton.mpr rfl) (List.forall_mem_nil _)

end Decode

end ProofWire
