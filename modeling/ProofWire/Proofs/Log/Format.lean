import Mathlib
import ProofWire.Log.State

/-! Values that name loggers and levels and give formats: what is refused, and what formats show. -/

namespace ProofWire.Log

/-- A value names no logger when it is present and no text. -/
theorem LoggerName.single_of_ofValue {value : Value} {failure : Failure}
    (failed : LoggerName.ofValue value = .error failure) :
    failure = .wrongType ∧ value.isPresent = true ∧ ∀ text, value ≠ .text text := by
  -- A value that is absent stands for the root, and a text for the logger of its name.
  unfold LoggerName.ofValue at failed
  split at failed
  · rename_i present
    split at failed
    · cases failed
    · rename_i single
      cases failed
      exact ⟨rfl, present, single⟩
  · cases failed

/-- A text names the logger that it does by itself, the empty one included. -/
theorem LoggerName.ofValue_text (name : String) : LoggerName.ofValue (.text name) = .ok (ofText name) := by
  -- The empty text counts as absent, and the root is what it names as well.
  by_cases empty : name = ""
  · subst empty
    rfl
  · have present : (Value.text name).isPresent = true := by simp [Value.isPresent, empty]
    rw [ofValue, if_pos present]

/-- A value that names no level is refused, or it is no text. -/
theorem level_cases {value : Value} {failure : Failure} (failed : levelOfValue value = .error failure) :
    failure.isRejection = true ∨ (failure = .noSuchOperation ∧ ∀ text, value ≠ .text text) := by
  -- An unknown name of a level is refused as such; what is no text has no upper case.
  unfold levelOfValue at failed
  split at failed
  · dsimp only at failed
    split at failed
    · cases failed
    · cases failed
      exact Or.inl rfl
  · rename_i single
    cases failed
    exact Or.inr ⟨rfl, single⟩

/-- A value that gives no format is refused, or it is present and no text. -/
theorem Format.ofValue_cases {value : Value} {failure : Failure} (failed : Format.ofValue value = .error failure) :
    failure.isRejection = true ∨
      (failure = .wrongType ∧ value.isPresent = true ∧ ∀ text, value ≠ .text text) := by
  -- A text that shows no field is refused as such; an absent value stands for the message.
  unfold Format.ofValue at failed
  split at failed
  · rename_i present
    split at failed
    · split at failed
      · cases failed
      · cases failed
        exact Or.inl rfl
    · rename_i single
      cases failed
      exact Or.inr ⟨rfl, present, single⟩
  · cases failed

/-- The parts of the standard format. -/
def Format.standardPieces : List Piece := [
  .literal '[', .literal '[', .directive ⟨some "asctime", ⟨[], 0, none, .plain⟩⟩, .literal ']', .literal ' ',
  .directive ⟨some "message", ⟨[], 0, none, .plain⟩⟩]

/-- The standard format consists of these parts. -/
theorem Format.pieces_standard : Piece.ofText? Format.standard.text.toList = some standardPieces := by
  cbv

/-- A directive without flags, width and precision shows a text as it is. -/
theorem Directive.render?_plain {record : Record} {key content : String} (unused : Option Field)
    (known : record.field? key = some (.text content)) :
    (Directive.mk (some key) ⟨[], 0, none, .plain⟩).render? record unused = some content.toList := by
  -- Nothing is cut without a precision, and nothing is filled up without a width.
  simp only [render?, field?, known, Option.bind_eq_bind, Option.bind_some, Style.write?, Style.ofText?, Style.cut,
    Style.pad, Style.has, List.contains_nil, Nat.zero_sub, List.replicate_zero, List.nil_append]
  rfl

/-- The standard format asks for the time. -/
theorem Format.asksTime_standard : Format.standard.asksTime = true := by
  cbv

/-- A record whose time has been worked out shows it. -/
theorem Record.field?_time {record : Record} (known : record.hasTime = true) :
    record.field? "asctime" = some (.text record.moment.time) := by
  simp only [field?, fields, known, if_true]
  rfl

/-- Every record shows its message. -/
theorem Record.field?_message (record : Record) : record.field? "message" = some (.text record.message) :=
  rfl

/-- The standard format shows the time and the message. -/
theorem Format.render?_standard {record : Record} (plain : record.addsCause = false) :
    Format.standard.render? record = some ("[[" ++ record.moment.time ++ "] " ++ record.message) := by
  -- The time is worked out for the format, which asks for it; then both fields are texts.
  have time := (record.timed true).field?_time (Bool.or_true _)
  have message := (record.timed true).field?_message
  have shown : Piece.render? (record.timed true) (some (record.timed true).whole) standardPieces =
      some ("[[".toList ++ record.moment.time.toList ++ "] ".toList ++ record.message.toList) := by
    simp [standardPieces, Piece.render?, Directive.render?_plain _ time, Directive.render?_plain _ message]
  rw [render?, pieces_standard, asksTime_standard]
  simp only [Option.bind_eq_bind, Option.bind_some, shown, Record.withCause, Record.addsCause_timed, plain,
    String.ofList_append, String.ofList_toList]
  rfl

/-- A record that a format shows leaves one line. -/
theorem Handler.notices_of_shown {format : Format} {record : Record} {text : String}
    (shown : format.render? record = some text) : notices format record = [.line (text ++ "\n")] := by
  simp only [notices, lines, mishaps, shown, Option.map_some, Option.toList_some, List.map_singleton,
    Option.isSome_some, if_true, List.append_nil]

end ProofWire.Log
