import ProofWire.Proofs.Layout.Artifact
import ProofWire.Proofs.Text.Numeral

/-! Names: the components of one artifact have different names, which show the index of a signal or a point. -/

namespace ProofWire

namespace Text

/-- Different numbers are written differently. -/
theorem toString_injective : Function.Injective (fun number : Nat => toString number) := by
  intro left right same
  -- The text of a number shows its value.
  have leftValue := (isCanonical_toString left).value
  have rightValue := (isCanonical_toString right).value
  have texts : toString left = toString right := same
  rw [← leftValue, texts, rightValue]

/-- A written number holds no closing bracket. -/
theorem bracket_notMem_toString (number : Nat) : ']' ∉ (toString number).toList := by
  -- Written numbers consist of digits.
  intro member
  rw [Nat.toString_eq_repr, Nat.toList_repr] at member
  have digit := Nat.isDigit_of_mem_toDigits (by decide) (by decide) member
  revert digit
  decide

/-- Up to its first closing bracket a text is what stands before that. -/
theorem takeWhile_bracket {text : List Char} (free : ']' ∉ text) (tail : List Char) :
    (text ++ ']' :: tail).takeWhile (· != ']') = text := by
  -- No character before the bracket stops the search.
  have passed : ∀ c ∈ text, (c != ']') = true := by
    intro c member
    rw [bne_iff_ne]
    rintro rfl
    exact free member
  rw [List.takeWhile_append_of_pos passed]
  simp

/-- A name with a number in brackets shows the number and what stands behind the brackets. -/
theorem bracketed_inj (front : String) {leftTail rightTail : String} {left right : Nat}
    (same : front ++ toString left ++ "]" ++ leftTail = front ++ toString right ++ "]" ++ rightTail) :
    left = right ∧ leftTail = rightTail := by
  have bracket : "]".toList = [']'] := rfl
  have texts := congrArg String.toList same
  simp only [String.toList_append, List.append_assoc, bracket, List.append_cancel_left_eq,
    List.singleton_append] at texts
  -- The first closing bracket on either side is the one behind the number.
  have numbers : (toString left).toList = (toString right).toList := by
    have cut := congrArg (List.takeWhile (· != ']')) texts
    rwa [takeWhile_bracket (bracket_notMem_toString left), takeWhile_bracket (bracket_notMem_toString right)] at cut
  rw [numbers, List.append_cancel_left_eq, List.cons.injEq] at texts
  exact ⟨toString_injective (String.toList_injective numbers), String.toList_injective texts.2⟩

/-- A name that begins with a front shows it. -/
theorem take_front {front tail name : String} (same : front ++ tail = name) :
    name.toList.take front.toList.length = front.toList := by
  rw [← same, String.toList_append, List.take_left]

end Text

open Component

namespace PublicInputs

/-- The component in a place of signals is the number there, under its index. -/
theorem getElem?_signalComponents (start : Nat) (numbers : List Nat) (place : Nat) :
    (signalComponents start numbers)[place]? =
      numbers[place]?.map fun number => ⟨s!"public[{start + place}]", Word.fieldSize, number⟩ := by
  -- The first signal is in the first place, and the others are one place further on.
  induction numbers generalizing start place with
  | nil => rfl
  | cons number rest ih =>
    cases place with
    | zero => rfl
    | succ place =>
      rw [signalComponents, List.getElem?_cons_succ, ih, List.getElem?_cons_succ, Nat.add_right_comm, Nat.add_assoc]

/-- The components of signals are the numbers in their places, each under its index. -/
theorem mem_signalComponents_iff {start : Nat} {numbers : List Nat} {component : Component} :
    component ∈ signalComponents start numbers ↔
      ∃ place number, numbers[place]? = some number ∧
        component = ⟨s!"public[{start + place}]", Word.fieldSize, number⟩ := by
  -- A member stands in some place.
  simp only [List.mem_iff_getElem?, getElem?_signalComponents, Option.map_eq_some_iff]
  constructor
  · rintro ⟨place, number, found, rfl⟩
    exact ⟨place, number, found, rfl⟩
  · rintro ⟨place, number, found, rfl⟩
    exact ⟨place, number, found, rfl⟩

/-- The name of a signal has its index in brackets. -/
theorem signal_name (index : Nat) : s!"public[{index}]" = "public[" ++ (toString index ++ "]") :=
  String.append_assoc

/-- The names of signals are different. -/
theorem signalComponents_names_nodup (start : Nat) (numbers : List Nat) :
    ((signalComponents start numbers).map Component.name).Nodup := by
  induction numbers generalizing start with
  | nil => exact List.nodup_nil
  | cons first rest ih =>
    rw [signalComponents, List.map_cons, List.nodup_cons]
    refine ⟨?_, ih (start + 1)⟩
    -- Every later signal has a larger index.
    intro member
    obtain ⟨component, later, same⟩ := List.mem_map.mp member
    obtain ⟨place, number, _, rfl⟩ := mem_signalComponents_iff.mp later
    have names : "public[" ++ toString (start + 1 + place) ++ "]" ++ "" = "public[" ++ toString start ++ "]" ++ "" :=
      congrArg (· ++ "") same
    have indices := (Text.bracketed_inj "public[" names).1
    omega

/-- The names of the components of public inputs are different. -/
theorem components_names_nodup (numbers : List Nat) : ((components numbers).map Component.name).Nodup := by
  rw [components, List.map_cons, List.nodup_cons]
  refine ⟨?_, signalComponents_names_nodup 0 numbers⟩
  -- The name of the count does not begin as those of the signals do.
  intro member
  obtain ⟨component, later, same⟩ := List.mem_map.mp member
  obtain ⟨place, number, _, rfl⟩ := mem_signalComponents_iff.mp later
  rw [signal_name] at same
  have front : "count".toList.take "public[".toList.length = "public[".toList := Text.take_front same
  revert front
  decide

end PublicInputs

namespace KeyWords

/-- The components of a row are those of the points in their places, each under its index. -/
theorem mem_rowComponents_iff {start : Nat} {points : List G1Words} {component : Component} :
    component ∈ rowComponents start points ↔
      ∃ (place : Nat) (point : G1Words), points[place]? = some point ∧
        component ∈ point.components (VerificationKey.icLabel (start + place)) := by
  -- The first point is in the first place, and the others are one place further on.
  induction points generalizing start with
  | nil => simp [rowComponents]
  | cons first rest ih =>
    rw [rowComponents, List.mem_append, ih]
    constructor
    · rintro (here | ⟨place, point, found, later⟩)
      · exact ⟨0, first, rfl, by rwa [Nat.add_zero]⟩
      · exact ⟨place + 1, point, found, by rwa [← Nat.add_assoc, Nat.add_right_comm]⟩
    · rintro ⟨place, point, found, shown⟩
      cases place with
      | zero =>
        obtain rfl : first = point := by simpa using found
        exact .inl (by rwa [Nat.add_zero] at shown)
      | succ place =>
        exact .inr ⟨place, point, by simpa using found, by rwa [Nat.add_right_comm, Nat.add_assoc]⟩

/-- The name of a component in a row has the label of its point in front. -/
theorem name_of_mem_rowComponents {start : Nat} {points : List G1Words} {component : Component}
    (member : component ∈ rowComponents start points) :
    ∃ place tail, component.name = "IC[" ++ toString (start + place) ++ "]" ++ tail := by
  obtain ⟨place, point, _, shown⟩ := mem_rowComponents_iff.mp member
  simp only [G1Words.components, List.mem_cons, List.not_mem_nil, or_false] at shown
  -- A point has two components.
  rcases shown with rfl | rfl
  · exact ⟨place, ".x", rfl⟩
  · exact ⟨place, ".y", rfl⟩

/-- The names of the components of a row are different. -/
theorem rowComponents_names_nodup (start : Nat) (points : List G1Words) :
    ((rowComponents start points).map Component.name).Nodup := by
  induction points generalizing start with
  | nil => exact List.nodup_nil
  | cons point rest ih =>
    rw [rowComponents, List.map_append, List.nodup_append]
    refine ⟨?_, ih (start + 1), ?_⟩
    · -- The two names of a point end differently.
      have ends : VerificationKey.icLabel start ++ ".x" ≠ VerificationKey.icLabel start ++ ".y" := by
        intro same
        have tails := (Text.bracketed_inj "IC[" same).2
        revert tails
        decide
      simp [G1Words.components, ends]
    · -- Every later point has a larger index.
      intro name here other later same
      obtain ⟨component, member, rfl⟩ := List.mem_map.mp later
      obtain ⟨place, tail, named⟩ := name_of_mem_rowComponents member
      rw [named] at same
      simp only [G1Words.components, List.map_cons, List.map_nil, List.mem_cons, List.not_mem_nil, or_false] at here
      have indices : start = start + 1 + place := by
        rcases here with rfl | rfl
        · exact (Text.bracketed_inj "IC[" same).1
        · exact (Text.bracketed_inj "IC[" same).1
      omega

/-- The names of the components in front of the row. -/
def fixedNames : List String := [
  "vk_alpha_1.x", "vk_alpha_1.y",
  "vk_beta_2.x1", "vk_beta_2.x0", "vk_beta_2.y1", "vk_beta_2.y0",
  "vk_gamma_2.x1", "vk_gamma_2.x0", "vk_gamma_2.y1", "vk_gamma_2.y0",
  "vk_delta_2.x1", "vk_delta_2.x0", "vk_delta_2.y1", "vk_delta_2.y0", "IC.count"]

/-- The fixed points and the count come before the row. -/
theorem components_names (words : KeyWords) :
    words.components.map Component.name = fixedNames ++ (rowComponents 0 words.ic).map Component.name := by
  rfl

/-- The names of the components of a verification key are different. -/
theorem components_names_nodup (words : KeyWords) : (words.components.map Component.name).Nodup := by
  rw [components_names, List.nodup_append]
  refine ⟨by decide, rowComponents_names_nodup 0 words.ic, ?_⟩
  -- No name in front of the row begins as those of the row do.
  intro name fixed other later same
  obtain ⟨component, member, rfl⟩ := List.mem_map.mp later
  obtain ⟨place, tail, named⟩ := name_of_mem_rowComponents member
  rw [named, String.append_assoc, String.append_assoc] at same
  have front := Text.take_front same.symm
  have apart : ∀ name ∈ fixedNames, name.toList.take "IC[".toList.length ≠ "IC[".toList := by decide
  exact apart name fixed front

end KeyWords

/-- The names of the components of a proof are different. -/
theorem ProofWords.components_names_nodup (words : ProofWords) :
    (words.components.map Component.name).Nodup := by
  -- The names do not depend on the numbers.
  show ["pi_a.x", "pi_a.y", "pi_b.x1", "pi_b.x0", "pi_b.y1", "pi_b.y0", "pi_c.x", "pi_c.y"].Nodup
  decide

end ProofWire
