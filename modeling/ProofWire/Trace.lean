import ProofWire.Failure.Basic

/-! Traced computations: results together with the events reported on the way. -/

namespace ProofWire

/-- What an encoder reports: the component it works on, the step and a message. -/
structure Event where
  component : String
  step : String
  message : String
deriving DecidableEq

/-- The text of an event; an empty message leaves no colon. -/
def Event.text (event : Event) : String :=
  s!"[{event.component}] [{event.step}]]" ++
    (if event.message.isEmpty then "" else ": " ++ event.message)

/-- A computation with the events that it reports before it ends, well or not. -/
structure Traced (α : Type) where
  events : List Event
  result : Except Failure α

namespace Traced

/-- A computation that reports nothing. -/
def lift (result : Except Failure α) : Traced α :=
  ⟨[], result⟩

/-- Reports one event. -/
def report (event : Event) : Traced Unit :=
  ⟨[event], .ok ()⟩

/-- The second computation runs on the result of the first, and its events follow. -/
def bind (first : Traced α) (next : α → Traced β) : Traced β :=
  match first.result with
  | .ok value => ⟨first.events ++ (next value).events, (next value).result⟩
  | .error failure => ⟨first.events, .error failure⟩

instance : Monad Traced where
  pure value := ⟨[], .ok value⟩
  bind := bind

/-- A result without events leads straight into what follows. -/
@[simp] theorem lift_ok_bind (value : α) (next : α → Traced β) :
    (lift (.ok value) >>= next) = next value := by
  -- No event precedes those of the second computation.
  simp [Bind.bind, bind, lift]

/-- A failure ends the computation. -/
@[simp] theorem lift_error_bind (failure : Failure) (next : α → Traced β) :
    (lift (.error failure) >>= next) = lift (.error failure) := by
  -- The second computation does not run.
  simp [Bind.bind, bind, lift]

end Traced

end ProofWire
