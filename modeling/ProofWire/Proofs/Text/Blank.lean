import Mathlib
import ProofWire.Text.Blank

/-! Blanks at the ends of a text: what is left without them, and that nothing else is taken away. -/

namespace ProofWire.Text

/-- A text is a trimmed one between blanks: no blank stands at either end of what is kept. -/
structure Trims (source text : List Char) : Prop where
  around : ∃ front back, source = front ++ text ++ back ∧ (∀ c ∈ front, isBlank c = true) ∧
    ∀ c ∈ back, isBlank c = true
  first : ∀ c, text.head? = some c → isBlank c = false
  last : ∀ c, text.getLast? = some c → isBlank c = false

/-- A text whose first character is no blank keeps its front. -/
theorem dropWhile_isBlank {text : List Char} (first : ∀ c, text.head? = some c → isBlank c = false) :
    text.dropWhile isBlank = text := by
  -- The first character already ends the search.
  cases text with
  | nil => rfl
  | cons c rest => exact List.dropWhile_cons_of_neg (by simp [first c rfl])

/-- What the search for the first character leaves begins with no blank. -/
theorem isBlank_head?_dropWhile (text : List Char) :
    ∀ c, (text.dropWhile isBlank).head? = some c → isBlank c = false := by
  -- The search stops at the first character that is no blank.
  intro c found
  have stopped := List.head?_dropWhile_not isBlank text
  rw [found] at stopped
  exact stopped

/-- What is left of a text without the blanks at its ends is its trimmed form. -/
theorem trims_strip (source : List Char) : Trims source (strip source) := by
  -- The blanks in front go first, and then those at the front of what is left, read backwards.
  let rest := source.dropWhile isBlank
  have forward : source = source.takeWhile isBlank ++ rest := (List.takeWhile_append_dropWhile).symm
  have backward : rest = strip source ++ (rest.reverse.takeWhile isBlank).reverse := by
    rw [strip, ← List.reverse_append, List.takeWhile_append_dropWhile, List.reverse_reverse]
  refine ⟨⟨source.takeWhile isBlank, (rest.reverse.takeWhile isBlank).reverse, ?_, ?_, ?_⟩, ?_, ?_⟩
  · rw [List.append_assoc, ← backward, ← forward]
  · exact fun c member => List.mem_takeWhile_imp member
  · exact fun c member => List.mem_takeWhile_imp (List.mem_reverse.mp member)
  · intro c found
    refine isBlank_head?_dropWhile source c ?_
    show rest.head? = some c
    rw [backward, List.head?_append, found]
    rfl
  · intro c found
    refine isBlank_head?_dropWhile rest.reverse c ?_
    rw [← List.getLast?_reverse]
    exact found

/-- A text has no other trimmed form. -/
theorem strip_of_trims {source text : List Char} (trims : Trims source text) : strip source = text := by
  obtain ⟨⟨front, back, rfl, frontBlank, backBlank⟩, first, last⟩ := trims
  by_cases empty : text = []
  · -- With nothing between them, the two runs of blanks are one.
    subst empty
    have blank : ∀ c ∈ front ++ [] ++ back, isBlank c = true := by
      intro c member
      simp only [List.append_nil, List.mem_append] at member
      exact member.elim (frontBlank c) (backBlank c)
    have dropped : (front ++ [] ++ back).dropWhile isBlank = [] := List.dropWhile_eq_nil_iff.mpr blank
    rw [strip, dropped]
    rfl
  · -- The text stops the search from the front, and its reverse the one from the back.
    have kept : (text ++ back).dropWhile isBlank = text ++ back :=
      dropWhile_isBlank fun c found => first c (by rwa [List.head?_append_of_ne_nil _ empty] at found)
    have backward : (back.reverse ++ text.reverse).dropWhile isBlank = text.reverse := by
      rw [List.dropWhile_append_of_pos (by simpa using backBlank)]
      exact dropWhile_isBlank fun c found => last c (by rwa [List.head?_reverse] at found)
    rw [strip, List.append_assoc, List.dropWhile_append_of_pos frontBlank, kept, List.reverse_append,
      backward, List.reverse_reverse]

/-- A text has exactly one trimmed form. -/
theorem trims_iff {source text : List Char} : Trims source text ↔ text = strip source :=
  ⟨fun trims => (strip_of_trims trims).symm, fun same => same ▸ trims_strip source⟩

/-- Text without blanks is the trimmed form of what it makes with blanks around it. -/
theorem trims_of_solid {front text back : List Char} (frontBlank : ∀ c ∈ front, isBlank c = true)
    (solid : ∀ c ∈ text, isBlank c = false) (backBlank : ∀ c ∈ back, isBlank c = true) :
    Trims (front ++ text ++ back) text where
  -- The blanks go, and nothing of the text does.
  around := ⟨front, back, rfl, frontBlank, backBlank⟩
  first c found := solid c (List.mem_of_mem_head? found)
  last c found := solid c (List.mem_of_mem_getLast? found)

/-- Text without blanks is not changed. -/
theorem strip_of_solid {text : List Char} (solid : ∀ c ∈ text, isBlank c = false) : strip text = text := by
  have nothing : ∀ c ∈ [], isBlank c = true := List.forall_mem_nil _
  simpa using strip_of_trims (trims_of_solid nothing solid nothing)

end ProofWire.Text
