import Mathlib
import ProofWire.Trace

/-! What the parts of a computation did when the whole of it ended well. -/

namespace ProofWire

/-- A sequence ends well exactly when its first step does and the next one does on what the first returned. -/
theorem bind_eq_ok_iff {ε α β : Type} {first : Except ε α} {next : α → Except ε β} {result : β} :
    (first >>= next) = .ok result ↔ ∃ value, first = .ok value ∧ next value = .ok result := by
  -- A failing first step ends the sequence, and any other hands its value on.
  cases first with
  | ok value => simp [Bind.bind, Except.bind]
  | error failure => simp [Bind.bind, Except.bind]

/-- A sequence fails with its first step, or with the next one on what the first returned. -/
theorem bind_eq_error_iff {ε α β : Type} {first : Except ε α} {next : α → Except ε β} {failure : ε} :
    (first >>= next) = .error failure ↔
      first = .error failure ∨ ∃ value, first = .ok value ∧ next value = .error failure := by
  -- A first step that returns leaves the failing to the next one.
  cases first with
  | ok value => simp [Bind.bind, Except.bind]
  | error failure => simp [Bind.bind, Except.bind]

/-- Computations on the items of a row end well together when each of them does. -/
theorem exists_mapM_eq_ok {ε α β : Type} {compute : α → Except ε β} {items : List α}
    (each : ∀ item ∈ items, ∃ value, compute item = .ok value) :
    ∃ values, items.mapM compute = .ok values := by
  -- The first failure would end the row, and there is none.
  induction items with
  | nil => exact ⟨[], rfl⟩
  | cons item rest ih =>
    rw [List.forall_mem_cons] at each
    obtain ⟨value, first⟩ := each.1
    obtain ⟨values, later⟩ := ih each.2
    exact ⟨value :: values, by rw [List.mapM_cons, first, later]; rfl⟩

/-- Computations on the items of a row fail together because one of them does. -/
theorem exists_of_mapM_eq_error {ε α β : Type} {compute : α → Except ε β} {items : List α} {failure : ε}
    (failed : items.mapM compute = .error failure) : ∃ item ∈ items, compute item = .error failure := by
  -- The first item fails, or the rest does, since putting the results together cannot fail.
  induction items with
  | nil => cases failed
  | cons item rest ih =>
    rw [List.mapM_cons] at failed
    rcases bind_eq_error_iff.mp failed with first | ⟨_, _, later⟩
    · exact ⟨item, List.mem_cons_self, first⟩
    · rcases bind_eq_error_iff.mp later with unread | ⟨_, _, done⟩
      · obtain ⟨other, member, refused⟩ := ih unread
        exact ⟨other, List.mem_cons_of_mem _ member, refused⟩
      · cases done

/-- Steps in order; the first one that fails ends them. -/
def runInOrder {ε σ : Type} (run : σ → Except ε Unit) : List σ → Except ε Unit
  | [] => .ok ()
  | step :: rest => run step >>= fun _ => runInOrder run rest

/-- Steps end well exactly when each of them does. -/
theorem runInOrder_eq_ok_iff {ε σ : Type} {run : σ → Except ε Unit} {steps : List σ} :
    runInOrder run steps = .ok () ↔ ∀ step ∈ steps, run step = .ok () := by
  -- The first step passes, and then the rest does.
  induction steps with
  | nil => simp [runInOrder]
  | cons step rest ih =>
    rw [runInOrder, bind_eq_ok_iff, List.forall_mem_cons, ih]
    constructor
    · intro ⟨_, passed, later⟩
      exact ⟨passed, later⟩
    · intro ⟨passed, later⟩
      exact ⟨(), passed, later⟩

/-- Steps end with a failure exactly when it is that of the first one to fail. -/
theorem runInOrder_eq_error_iff {ε σ : Type} {run : σ → Except ε Unit} {steps : List σ} {failure : ε} :
    runInOrder run steps = .error failure ↔ ∃ before step, before ++ [step] <+: steps ∧
      (∀ earlier ∈ before, run earlier = .ok ()) ∧ run step = .error failure := by
  induction steps with
  | nil =>
    constructor
    · intro failed
      cases failed
    · intro ⟨before, step, inOrder, _⟩
      have short := inOrder.length_le
      simp at short
  | cons step rest ih =>
    rw [runInOrder, bind_eq_error_iff]
    -- Either the first step fails, with none before it, or it passes and the rest decides.
    constructor
    · intro failed
      rcases failed with failed | ⟨_, passed, later⟩
      · exact ⟨[], step, ⟨rest, rfl⟩, List.forall_mem_nil _, failed⟩
      · obtain ⟨before, failing, ⟨after, split⟩, earlier, fails⟩ := ih.mp later
        refine ⟨step :: before, failing, ⟨after, by rw [← split]; rfl⟩, ?_, fails⟩
        exact List.forall_mem_cons.mpr ⟨passed, earlier⟩
    · intro ⟨before, failing, ⟨after, split⟩, earlier, fails⟩
      cases before with
      | nil =>
        obtain ⟨rfl, rfl⟩ := List.cons.inj split
        exact Or.inl fails
      | cons head before =>
        obtain ⟨rfl, rfl⟩ := List.cons.inj split
        obtain ⟨passed, earlier⟩ := List.forall_mem_cons.mp earlier
        exact Or.inr ⟨(), passed, ih.mpr ⟨before, failing, ⟨after, rfl⟩, earlier, fails⟩⟩

/-- Locating faults changes no result. -/
@[simp] theorem located_eq_ok_iff {α : Type} {entries : Context} {computation : Except Failure α}
    {result : α} : located entries computation = .ok result ↔ computation = .ok result := by
  -- Only failures are touched.
  cases computation <;> simp [located]

/-- The failure of a cause that can be worded is a classified fault. -/
theorem Cause.raise_eq_classified (cause : Cause) {message : String}
    (worded : cause.message? = some message) :
    cause.raise = .classified ⟨cause.kind, message, cause.context⟩ := by
  -- The wording is all that decides.
  simp [Cause.raise, worded]

/-- A cause without a message is the failure to write it. -/
theorem Cause.raise_eq_digits {cause : Cause} (wordless : cause.message? = none) : cause.raise = .digits none := by
  rw [Cause.raise, wordless]

/-- A cause gives a fault of its kind, or its message holds a number too long to write. -/
theorem Cause.raise_cases (cause : Cause) :
    (∃ message, cause.raise = .classified ⟨cause.kind, message, cause.context⟩) ∨
      (cause.raise = .digits none ∧ ¬ cause.message?.isSome = true) := by
  -- The wording is all that decides.
  cases worded : cause.message? with
  | some message => exact Or.inl ⟨message, cause.raise_eq_classified worded⟩
  | none => exact Or.inr ⟨raise_eq_digits worded, by simp⟩

namespace Traced

/-- Events aside, traced steps follow each other as plain ones do. -/
@[simp] theorem result_bind {α β : Type} (first : Traced α) (next : α → Traced β) :
    (first >>= next).result = first.result >>= fun value => (next value).result := by
  -- Both sides stop at the failure of the first step.
  cases ended : first.result <;> simp [Bind.bind, Traced.bind, Except.bind, ended]

/-- A value alone is a result. -/
@[simp] theorem result_pure {α : Type} (value : α) : (pure value : Traced α).result = .ok value :=
  rfl

/-- A lifted result stays what it is. -/
@[simp] theorem result_lift {α : Type} (result : Except Failure α) : (lift result).result = result :=
  rfl

/-- Reporting an event never fails. -/
@[simp] theorem result_report (event : Event) : (report event).result = .ok () :=
  rfl

end Traced

end ProofWire
