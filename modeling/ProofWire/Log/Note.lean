import ProofWire.Trace
import ProofWire.Value.Printer

/-! Notes: what a caller gives to be logged, each part of it a value of any kind. -/

namespace ProofWire

namespace Log

/-- What a caller gives: where the note comes from, what it says, and the level at which it is to be told. -/
structure Note where
  component : Value
  step : Value
  message : Value
  level : Value

namespace Note

/-- A value as it stands in a text, unless a number in it is too long. -/
def shown (value : Value) : Except Failure String :=
  match value.shown? with
  | some text => .ok text
  | none => .error (.digits none)

/-- The text of a note. A message that is no text joins the text only where it counts as absent, and then without a
colon. -/
def text (note : Note) : Except Failure String := do
  let component ← shown note.component
  let step ← shown note.step
  match note.message with
  | .text message => return Event.text ⟨component, step, message⟩
  | other =>
    if other.isPresent then .error .wrongType
    else
      let ending ← shown other
      return Event.text ⟨component, step, ""⟩ ++ ending

end Note

end Log

/-- An event as a note at a level. -/
def Event.note (event : Event) (level : String) : Log.Note :=
  ⟨.text event.component, .text event.step, .text event.message, .text level⟩

/-- The note of an event has its text. -/
@[simp] theorem Event.text_note (event : Event) (level : String) : (event.note level).text = .ok event.text :=
  rfl

end ProofWire
