import ProofWire.Proofs.Artifact.Refusal

/-! Encoding step by step: an encoder fails as the first of its steps that fails, and sees nothing beyond it. -/

namespace ProofWire

/-- How a computation ended, whatever it returned. -/
def ended {α : Type} : Except Failure α → Except Failure Unit
  | .ok _ => .ok ()
  | .error failure => .error failure

/-- A computation ended well exactly when it returned something. -/
theorem ended_eq_ok_iff {α : Type} {computation : Except Failure α} :
    ended computation = .ok () ↔ ∃ value, computation = .ok value := by
  cases computation <;> simp [ended]

/-- A computation ended with the failure that it raised. -/
theorem ended_eq_error_iff {α : Type} {computation : Except Failure α} {failure : Failure} :
    ended computation = .error failure ↔ computation = .error failure := by
  cases computation <;> simp [ended]

namespace Traced

/-- A traced computation without what it returned: what it reported and how it ended. -/
def outline {α : Type} (computation : Traced α) : Traced Unit :=
  ⟨computation.events, ended computation.result⟩

/-- A sequence is outlined by its first part and whatever outlines the second one on what the first returned. -/
theorem outline_bind {α β : Type} {first : Traced α} {next : α → Traced β} {rest : Traced Unit}
    (same : ∀ value, first.result = .ok value → (next value).outline = rest) :
    (first >>= next).outline = (first.outline >>= fun _ => rest) := by
  -- The second part counts only where the first one returned.
  obtain ⟨events, result⟩ := first
  cases result with
  | ok value =>
    rw [← same value rfl]
    rfl
  | error failure => rfl

/-- What is done to a result without a report does not show in the outline. -/
theorem outline_bind_pure {α β : Type} (first : Traced α) (finish : α → β) :
    (first >>= fun value => pure (finish value)).outline = first.outline := by
  -- Without a report there is nothing to outline.
  obtain ⟨events, result⟩ := first
  cases result with
  | ok value => simp [outline, Bind.bind, bind, pure, ended]
  | error failure => rfl

end Traced

namespace Value

/-- What an object holds under a key, if it does. -/
def below? (source : Value) (key : String) : Option Value :=
  (source.entry key).toOption

/-- The points of the row of a verification key, if it has one. -/
def rowItems? (source : Value) : Option (List Value) :=
  (source.below? "IC").bind items?

/-- An object holds under a key what is found there. -/
theorem below?_eq_some_iff {source value : Value} {key : String} :
    source.below? key = some value ↔ source.entry key = .ok value := by
  rw [below?]
  cases source.entry key <;> simp [Except.toOption]

/-- What an object holds is met within it. -/
theorem occurs_of_below? {source value : Value} {key : String} (held : source.below? key = some value) :
    value.Occurs source :=
  occurs_of_entry (below?_eq_some_iff.mp held)

/-- The points of the row of a key are met within the key. -/
theorem occurs_of_rowItem {source point : Value} {index : Nat}
    (there : source.rowItems?.bind (·[index]?) = some point) : point.Occurs source := by
  -- The point is an item of the row, and the row lies below the key.
  obtain ⟨items, given, found⟩ := Option.bind_eq_some_iff.mp there
  obtain ⟨row, held, itemized⟩ := Option.bind_eq_some_iff.mp given
  have item : point.Occurs row := .item itemized (List.mem_of_getElem? found) .self
  exact item.trans (occurs_of_below? held)

end Value

namespace Encode

/-- The steps of the encoders of proofs and of verification keys. -/
inductive Step where
  /-- There is an entry under a key. -/
  | find (key : String)
  /-- The entry under a key is encoded as a G1 point. -/
  | g1 (key : String)
  /-- The entry under a key is encoded as a G2 point. -/
  | g2 (key : String)
  /-- The row of points is a list or a tuple. -/
  | row
  /-- The length of the row fits the count. -/
  | count
  /-- A point of the row is encoded as a G1 point. -/
  | rowPoint (index : Nat)

namespace Step

/-- A step on a part of the value; where the part is missing an earlier step has failed already. -/
def onPart {α : Type} (part : Option α) (step : α → Except Failure Unit) : Except Failure Unit :=
  match part with
  | some given => step given
  | none => .ok ()

/-- What a step does on its own. -/
def run (source : Value) : Step → Except Failure Unit
  | .find key => ended (source.entry key)
  | .g1 key => onPart (source.below? key) fun point => ended (Encode.g1 (some key) point).result
  | .g2 key => onPart (source.below? key) fun point => ended (Encode.g2 (some key) point).result
  | .row => onPart (source.below? "IC") fun row => ended (row.array "IC")
  | .count => onPart source.rowItems? fun items => ended (Word.fitCount items.length)
  | .rowPoint index =>
    onPart (source.rowItems?.bind (·[index]?)) fun point =>
      ended (Encode.g1 (some (VerificationKey.icLabel index)) point).result

/-- The label of the point that a step encodes, and the name of its encoder. -/
def subject? : Step → Option (String × String)
  | .g1 key => some (key, "encode_g1")
  | .g2 key => some (key, "encode_g2")
  | .rowPoint index => some (VerificationKey.icLabel index, "encode_g1")
  | .find _ | .row | .count => none

/-- The point that a step encodes lies at infinity. -/
def isInfinite (source : Value) : Step → Bool
  | .g1 key => (source.below? key).any G1.isInfinite
  | .g2 key => (source.below? key).any G2.isInfinite
  | .rowPoint index => (source.rowItems?.bind (·[index]?)).any G1.isInfinite
  | .find _ | .row | .count => false

/-- What a step reports about the point that it encodes: its infinity. -/
def notice? (source : Value) (step : Step) : Option Event :=
  if step.isInfinite source then
    step.subject?.map fun (label, encoder) => Point.infinityEvent (some label) encoder
  else none

/-- A step with what it reports. -/
def trace (source : Value) (step : Step) : Traced Unit :=
  ⟨(step.notice? source).toList, step.run source⟩

/-- A step on a part fails exactly when there is the part and it fails there. -/
theorem onPart_eq_error_iff {α : Type} {part : Option α} {step : α → Except Failure Unit}
    {failure : Failure} :
    onPart part step = .error failure ↔ ∃ given, part = some given ∧ step given = .error failure := by
  cases part <;> simp [onPart]

/-- Two values are alike in what a step looks at: a point, a length, or no more than what is there. -/
def Alike (left right : Value) : Step → Prop
  | .g1 key | .g2 key => left.below? key = right.below? key
  | .count => left.rowItems?.map List.length = right.rowItems?.map List.length
  | .rowPoint index => left.rowItems?.bind (·[index]?) = right.rowItems?.bind (·[index]?)
  | .find key => (Step.find key).run left = (Step.find key).run right
  | .row => Step.row.run left = Step.row.run right

/-- A step does the same on values that are alike in what it looks at. -/
theorem Alike.run_eq {left right : Value} {step : Step} (alike : step.Alike left right) :
    step.run left = step.run right := by
  cases step with
  | find key => exact alike
  | g1 key => rw [run, run, show left.below? key = right.below? key from alike]
  | g2 key => rw [run, run, show left.below? key = right.below? key from alike]
  | row => exact alike
  | rowPoint index => rw [run, run, show left.rowItems?.bind (·[index]?) = _ from alike]
  | count =>
    -- Nothing but the length of the row enters the step.
    have lengths : left.rowItems?.map List.length = right.rowItems?.map List.length := alike
    rw [run, run]
    cases leftRow : left.rowItems? with
    | none =>
      rw [leftRow, Option.map_none, eq_comm, Option.map_eq_none_iff] at lengths
      rw [lengths]
    | some leftItems =>
      rw [leftRow, Option.map_some, eq_comm, Option.map_eq_some_iff] at lengths
      obtain ⟨rightItems, rightRow, same⟩ := lengths
      rw [rightRow, onPart, onPart, same]

/-- Steps in order; the first one that fails ends them. -/
def runAll (source : Value) : List Step → Except Failure Unit
  | [] => .ok ()
  | step :: rest => step.run source >>= fun _ => runAll source rest

/-- Steps in order with what they report. -/
def traceAll (source : Value) : List Step → Traced Unit
  | [] => ⟨[], .ok ()⟩
  | step :: rest => step.trace source >>= fun _ => traceAll source rest

/-- The reports aside, traced steps end as the steps do. -/
theorem result_traceAll (source : Value) (steps : List Step) :
    (traceAll source steps).result = runAll source steps := by
  -- Reports do not change how a step ends.
  induction steps with
  | nil => rfl
  | cons step rest ih => simp only [traceAll, runAll, Traced.result_bind, ih, trace]

/-- After some steps of a row the next one fails, and none of those before it does. -/
structure FirstFailure (source : Value) (steps before : List Step) (step : Step) (failure : Failure) :
    Prop where
  inOrder : before ++ [step] <+: steps
  earlier : ∀ other ∈ before, other.run source = .ok ()
  fails : step.run source = .error failure

/-- The steps of an encoder are run in order. -/
theorem runAll_eq_runInOrder (source : Value) (steps : List Step) :
    runAll source steps = runInOrder (run source) steps := by
  -- Both stop at the first failure.
  induction steps with
  | nil => rfl
  | cons step rest ih => rw [runAll, runInOrder, ih]

/-- Steps end well exactly when each of them does. -/
theorem runAll_eq_ok_iff {source : Value} {steps : List Step} :
    runAll source steps = .ok () ↔ ∀ step ∈ steps, step.run source = .ok () := by
  rw [runAll_eq_runInOrder, runInOrder_eq_ok_iff]

/-- Steps end with a failure exactly when it is that of the first one to fail. -/
theorem runAll_eq_error_iff {source : Value} {steps : List Step} {failure : Failure} :
    runAll source steps = .error failure ↔ ∃ before step, FirstFailure source steps before step failure := by
  -- Steps run in order, and both sides name what comes before the first to fail.
  rw [runAll_eq_runInOrder, runInOrder_eq_error_iff]
  constructor
  · rintro ⟨before, step, inOrder, earlier, fails⟩
    exact ⟨before, step, inOrder, earlier, fails⟩
  · rintro ⟨before, step, inOrder, earlier, fails⟩
    exact ⟨before, step, inOrder, earlier, fails⟩

/-- Values that are alike up to a failing step fail alike. -/
theorem FirstFailure.transfer {source other : Value} {steps others before : List Step} {step : Step}
    {failure : Failure} (first : FirstFailure source steps before step failure)
    (inOrder : before ++ [step] <+: others)
    (alike : ∀ seen ∈ before ++ [step], seen.Alike source other) :
    FirstFailure other others before step failure where
  -- The failing step and those before it read parts that are alike.
  inOrder := inOrder
  earlier := by
    intro seen member
    rw [← (alike seen (List.mem_append_left _ member)).run_eq]
    exact first.earlier seen member
  fails := by
    rw [← (alike step (by simp)).run_eq]
    exact first.fails

end Step

/-- The steps that encode a proof. -/
def proofSteps : List Step := [
  .find "pi_a", .g1 "pi_a", .find "pi_b", .g2 "pi_b", .find "pi_c", .g1 "pi_c"]

/-- The steps that encode a verification key, up to the points of its row. -/
def fixedKeySteps : List Step := [
  .find "vk_alpha_1", .g1 "vk_alpha_1", .find "vk_beta_2", .g2 "vk_beta_2",
  .find "vk_gamma_2", .g2 "vk_gamma_2", .find "vk_delta_2", .g2 "vk_delta_2",
  .find "IC", .row, .count]

/-- The steps for the points of the row of a verification key. -/
def rowSteps (source : Value) : List Step :=
  (List.range (source.rowItems?.getD []).length).map .rowPoint

/-- The steps that encode a verification key: one for each point of its row comes last. -/
def keySteps (source : Value) : List Step :=
  fixedKeySteps ++ rowSteps source

/-- Encoding a G1 point ends as reading it does. -/
theorem ended_g1 (label : Option String) (point : Value) :
    ended (Encode.g1 label point).result = ended (G1.ofValue label point) := by
  rw [Encode.g1, Traced.result_bind, G1.result_read]
  cases G1.ofValue label point <;> simp only [Bind.bind, Except.bind, Traced.result_pure, ended]

/-- Encoding a G2 point ends as reading it does. -/
theorem ended_g2 (label : Option String) (point : Value) :
    ended (Encode.g2 label point).result = ended (G2.ofValue label point) := by
  rw [Encode.g2, Traced.result_bind, G2.result_read]
  cases G2.ofValue label point <;> simp only [Bind.bind, Except.bind, Traced.result_pure, ended]

/-- Reading a G1 point ends and reports as encoding it does. -/
theorem outline_g1 (label : Option String) (point : Value) :
    (G1.read label point).outline =
      ⟨if G1.isInfinite point then [Point.infinityEvent label "encode_g1"] else [],
        ended (Encode.g1 label point).result⟩ := by
  rw [Traced.outline, G1.events_read, G1.result_read, ended_g1]

/-- Reading a G2 point ends and reports as encoding it does. -/
theorem outline_g2 (label : Option String) (point : Value) :
    (G2.read label point).outline =
      ⟨if G2.isInfinite point then [Point.infinityEvent label "encode_g2"] else [],
        ended (Encode.g2 label point).result⟩ := by
  rw [Traced.outline, G2.events_read, G2.result_read, ended_g2]

/-- Finding a point under a key and reading it takes two steps, whichever reader the second one stands for. -/
theorem outline_entry {α β : Type} {source : Value} {key : String} {reader : Value → Traced α}
    {step : Step} {next : α → Traced β} {rest : Traced Unit}
    (traces : ∀ point, source.below? key = some point → (reader point).outline = step.trace source)
    (same : ∀ value, (next value).outline = rest) :
    ((Traced.lift (source.entry key) >>= reader) >>= next).outline =
      ((Step.find key).trace source >>= fun _ => step.trace source >>= fun _ => rest) := by
  -- Where there is no entry, the first step fails and the second one is not reached.
  cases found : source.entry key with
  | error failure =>
    have fails : (Step.find key).trace source = ⟨[], .error failure⟩ := by
      rw [Step.trace, Step.run, found]
      rfl
    rw [fails]
    rfl
  | ok point =>
    have finds : (Step.find key).trace source = ⟨[], .ok ()⟩ := by
      rw [Step.trace, Step.run, found]
      rfl
    have held : source.below? key = some point := Value.below?_eq_some_iff.mpr found
    rw [finds, Traced.lift_ok_bind, Traced.outline_bind fun value _ => same value, traces point held]
    rfl

/-- Reading a G1 point from under a key takes two steps. -/
theorem outline_readEntry_g1 {β : Type} {source : Value} {key : String} {next : G1 → Traced β}
    {rest : Traced Unit} (same : ∀ point, (next point).outline = rest) :
    (G1.readEntry source key >>= next).outline =
      ((Step.find key).trace source >>= fun _ => (Step.g1 key).trace source >>= fun _ => rest) := by
  -- The point is found first, which reports nothing, and then read from where it was found.
  refine outline_entry ?_ same
  intro point held
  simp only [outline_g1, Step.trace, Step.notice?, Step.isInfinite, Step.run, held, Option.any_some, Step.onPart]
  split <;> rfl

/-- Reading a G2 point from under a key takes two steps. -/
theorem outline_readEntry_g2 {β : Type} {source : Value} {key : String} {next : G2 → Traced β}
    {rest : Traced Unit} (same : ∀ point, (next point).outline = rest) :
    (G2.readEntry source key >>= next).outline =
      ((Step.find key).trace source >>= fun _ => (Step.g2 key).trace source >>= fun _ => rest) := by
  -- The point is found first, which reports nothing, and then read from where it was found.
  refine outline_entry ?_ same
  intro point held
  simp only [outline_g2, Step.trace, Step.notice?, Step.isInfinite, Step.run, held, Option.any_some, Step.onPart]
  split <;> rfl

/-- A proof is encoded by its steps, which report what its encoder does. -/
theorem outline_proofBytes (source : Value) :
    (Encode.proofBytes source).outline = Step.traceAll source proofSteps := by
  rw [Encode.proofBytes, Traced.outline_bind_pure]
  -- The three points are read one after the other, and putting them together cannot fail.
  exact outline_readEntry_g1 fun a => outline_readEntry_g2 fun b => outline_readEntry_g1 fun c => rfl

/-- A proof is encoded by its steps. -/
theorem ended_proofBytes (source : Value) :
    ended (Encode.proofBytes source).result = Step.runAll source proofSteps := by
  rw [← Step.result_traceAll, ← outline_proofBytes, Traced.outline]

/-- The points of a row are encoded one step each. -/
theorem outline_readRow {source : Value} {items : List Value} (given : source.rowItems? = some items) :
    ∀ (points : List Value) (index : Nat), items.drop index = points →
      (VerificationKey.readRow index points).outline =
        Step.traceAll source ((List.range' index points.length).map .rowPoint) := by
  -- The first point is the item at the index, and the rest begins behind it.
  intro points
  induction points with
  | nil =>
    intro index _
    rfl
  | cons point rest ih =>
    intro index split
    have here : items[index]? = some point := by
      have first := congrArg List.head? split
      simpa only [List.head?_drop, List.head?_cons] using first
    have behind : items.drop (index + 1) = rest := by
      have tail := congrArg List.tail split
      simpa only [List.tail_drop, List.tail_cons] using tail
    have step : (G1.read (some (VerificationKey.icLabel index)) point).outline =
        (Step.rowPoint index).trace source := by
      simp only [outline_g1, Step.trace, Step.notice?, Step.isInfinite, Step.run, given, Option.bind_some, here, Option.any_some,
        Step.onPart]
      split <;> rfl
    simp only [VerificationKey.readRow, List.length_cons, List.range'_succ, List.map_cons, Step.traceAll]
    rw [← step, ← ih (index + 1) behind]
    exact Traced.outline_bind fun first _ => Traced.outline_bind_pure _ _

/-- Finding the row, testing its length and reading its points takes the last steps of a key. -/
theorem outline_row {β : Type} {source : Value}
    {next : (items : List Value) → PLift (items.length < Word.countBound) → Traced β}
    (same : ∀ items few, (next items few).outline = (VerificationKey.readRow 0 items).outline) :
    (Traced.lift (source.entry "IC") >>= fun row => Traced.lift (row.array "IC") >>= fun items =>
        Traced.lift (Word.fitCount items.length) >>= next items).outline =
      Step.traceAll source ([.find "IC", .row, .count] ++ rowSteps source) := by
  have steps : Step.traceAll source ([.find "IC", .row, .count] ++ rowSteps source) =
      ((Step.find "IC").trace source >>= fun _ => Step.row.trace source >>= fun _ =>
        Step.count.trace source >>= fun _ => Step.traceAll source (rowSteps source)) := rfl
  rw [steps]
  -- Each test hands what it found to the next one: the entry, its items, their number.
  refine Traced.outline_bind fun row found => ?_
  have below : source.below? "IC" = some row := Value.below?_eq_some_iff.mpr found
  have rows : Step.row.trace source = (Traced.lift (row.array "IC")).outline := by
    rw [Step.trace, Step.run, below]
    rfl
  rw [rows]
  refine Traced.outline_bind fun items arrayed => ?_
  have given : source.rowItems? = some items := by
    rw [Value.rowItems?, below]
    exact Value.array_eq_ok_iff.mp arrayed
  have counts : Step.count.trace source = (Traced.lift (Word.fitCount items.length)).outline := by
    rw [Step.trace, Step.run, given]
    rfl
  rw [counts]
  refine Traced.outline_bind fun few _ => ?_
  rw [same, outline_readRow given items 0 rfl, rowSteps, given, List.range_eq_range', Option.getD_some]

/-- A verification key is encoded by its steps, which report what its encoder does. -/
theorem outline_keyBytes (source : Value) :
    (Encode.keyBytes source).outline = Step.traceAll source (keySteps source) := by
  rw [Encode.keyBytes, Traced.outline_bind_pure]
  refine outline_readEntry_g1 fun alpha => outline_readEntry_g2 fun beta => outline_readEntry_g2 fun gamma =>
    outline_readEntry_g2 fun delta => outline_row fun items few => ?_
  -- Putting the key together adds no failure and no report to those of its row.
  dsimp only
  split
  · rename_i ic read
    exact congrArg (Traced.mk _) (ended_eq_ok_iff.mpr ⟨ic, read⟩).symm
  · rename_i failure failed
    exact congrArg (Traced.mk _) (ended_eq_error_iff.mpr failed).symm

/-- A verification key is encoded by its steps. -/
theorem ended_keyBytes (source : Value) :
    ended (Encode.keyBytes source).result = Step.runAll source (keySteps source) := by
  rw [← Step.result_traceAll, ← outline_keyBytes, Traced.outline]

namespace Step

/-- The labels of the component that a step is about; the row itself and its length have none. -/
def labels : Step → List String
  | .find key => [key]
  | .g1 key => Point.labels key G1.parts
  | .g2 key => Point.labels key G2.parts
  | .row | .count => []
  | .rowPoint index => Point.labels (VerificationKey.icLabel index) G1.parts

/-- The causes that know no label: a row that is no list or tuple, and one that is too long for the count. -/
inductive Unplaced (source : Value) : Step → Cause → Prop where
  | notArray {row : Value} (held : source.below? "IC" = some row) :
    Unplaced source .row (.notArray "IC" row.shape)
  | overflow {items : List Value} (given : source.rowItems? = some items)
    (many : Word.countBound ≤ items.length) : Unplaced source .count (.countOutOfRange (.int items.length))

/-- A step fails by refusing its part under one of its labels, or for a cause that knows no label. -/
theorem refuses_of_fails {source : Value} {step : Step} {failure : Failure}
    (fails : step.run source = .error failure) :
    failure.Refuses source step.labels ∨ ∃ cause, Unplaced source step cause ∧ failure = cause.raise := by
  -- A reader refuses its part, and a number that is too long within the part is so within the whole.
  cases step with
  | find key => exact Or.inl (Value.refuses_of_entry (ended_eq_error_iff.mp fails))
  | g1 key =>
    obtain ⟨point, held, failed⟩ := onPart_eq_error_iff.mp fails
    rw [ended_g1] at failed
    have refuses := G1.refuses_of_ofValue (ended_eq_error_iff.mp failed)
    have within := Value.occurs_of_below? held
    exact Or.inl (refuses.weaken (fun writable => writable.of_occurs within) fun _ member => member)
  | g2 key =>
    obtain ⟨point, held, failed⟩ := onPart_eq_error_iff.mp fails
    rw [ended_g2] at failed
    have refuses := G2.refuses_of_ofValue (ended_eq_error_iff.mp failed)
    have within := Value.occurs_of_below? held
    exact Or.inl (refuses.weaken (fun writable => writable.of_occurs within) fun _ member => member)
  | row =>
    obtain ⟨row, held, failed⟩ := onPart_eq_error_iff.mp fails
    have refused := ended_eq_error_iff.mp failed
    unfold Value.array at refused
    split at refused
    · cases refused
    · exact Or.inr ⟨_, .notArray held, (Except.error.inj refused).symm⟩
  | count =>
    obtain ⟨items, given, failed⟩ := onPart_eq_error_iff.mp fails
    have refused := ended_eq_error_iff.mp failed
    unfold Word.fitCount at refused
    split at refused
    · cases refused
    · rename_i many
      exact Or.inr ⟨_, .overflow given (Nat.le_of_not_lt many), (Except.error.inj refused).symm⟩
  | rowPoint index =>
    obtain ⟨point, there, failed⟩ := onPart_eq_error_iff.mp fails
    rw [ended_g1] at failed
    have refuses := G1.refuses_of_ofValue (ended_eq_error_iff.mp failed)
    have within := Value.occurs_of_rowItem there
    exact Or.inl (refuses.weaken (fun writable => writable.of_occurs within) fun _ member => member)

/-- How the failure of a step tells its place: by a label of the step, unless it is one of the two that know none. -/
inductive Blames (source : Value) : Step → Failure → Prop where
  | labelled {step : Step} {fault : Fault} {label : String}
    (documented : fault.kind.categoryOf ∈ Category.documented)
    (known : fault.context.lookup "label" = some (.text label)) (member : label ∈ step.labels) :
    Blames source step (.classified fault)
  | unplaced {step : Step} {cause : Cause} (unplaced : Unplaced source step cause)
    (unlabelled : cause.context.lookup "label" = none) : Blames source step cause.raise

/-- On a writable value, the failure of every step tells its place. -/
theorem blames_of_fails {source : Value} {step : Step} {failure : Failure} (writable : source.Writable)
    (fails : step.run source = .error failure) : step.Blames source failure := by
  -- The words for a writable value exist, so that the failure names a place or has none to name.
  rcases refuses_of_fails fails with refuses | ⟨cause, unplaced, raised⟩
  · cases refuses with
    | fault documented known member => exact .labelled documented known member
    | tooLong unwritable => exact absurd writable unwritable
  · rw [raised]
    exact .unplaced unplaced (by cases unplaced <;> rfl)

end Step

/--
An encoder is the sequence of its steps on a value.

It returns exactly when every step succeeds, and otherwise fails exactly as the first step that fails. A value that is
alike in what the steps look at up to that one fails in the same way, whatever else it holds. The failure tells the
place of the step.
-/
structure FailsFirst (encode : Value → Traced Bytes) (steps : Value → List Step) (source : Value) : Prop where
  returns : (∃ content, (encode source).result = .ok content) ↔
    ∀ step ∈ steps source, step.run source = .ok ()
  fails : ∀ failure, (encode source).result = .error failure ↔
    ∃ before step, Step.FirstFailure source (steps source) before step failure
  unseen : ∀ before step failure other, Step.FirstFailure source (steps source) before step failure →
    (∀ seen ∈ before ++ [step], seen.Alike source other) → (encode other).result = .error failure
  blames : ∀ (step : Step) failure, step.run source = .error failure → step.Blames source failure

/-- An encoder that ends as its steps do fails first, when values alike in what was looked at share these steps. -/
theorem failsFirst_of_ended {encode : Value → Traced Bytes} {steps : Value → List Step}
    (ends : ∀ source, ended (encode source).result = Step.runAll source (steps source))
    (shared : ∀ source other front, front <+: steps source → (∀ seen ∈ front, seen.Alike source other) →
      front <+: steps other) {source : Value} (writable : source.Writable) :
    FailsFirst encode steps source where
  returns := by rw [← ended_eq_ok_iff, ends, Step.runAll_eq_ok_iff]
  fails := by
    intro failure
    rw [← ended_eq_error_iff, ends, Step.runAll_eq_error_iff]
  unseen := by
    intro before step failure other first alike
    -- The steps up to the failing one belong to the other value too, and do there what they do here.
    have inOrder := shared source other _ first.inOrder alike
    rw [← ended_eq_error_iff, ends, Step.runAll_eq_error_iff]
    exact ⟨before, step, first.transfer inOrder alike⟩
  blames := fun _ _ => Step.blames_of_fails writable

/-- Keys that are alike in what some steps look at share these steps. -/
theorem keySteps_shared (source other : Value) (front : List Step) (inOrder : front <+: keySteps source)
    (alike : ∀ seen ∈ front, seen.Alike source other) : front <+: keySteps other := by
  -- Steps beyond the fixed ones have seen the length of the row.
  rcases List.prefix_or_prefix_of_prefix inOrder (List.prefix_append fixedKeySteps _) with short | long
  · exact short.trans (List.prefix_append _ _)
  · have counted : Step.count ∈ front := long.subset (by simp [fixedKeySteps])
    have lengths : source.rowItems?.map List.length = other.rowItems?.map List.length :=
      alike _ counted
    have size : ∀ row : Option (List Value), (row.getD []).length = (row.map List.length).getD 0 := by
      intro row
      cases row <;> rfl
    have same : keySteps other = keySteps source := by
      rw [keySteps, keySteps, rowSteps, rowSteps, size, size, lengths]
    rw [same]
    exact inOrder

/--
The encoders of proofs and of verification keys fail first.

Presence and form of each component are decided before the next component is looked at, and no later component has
any part in the outcome.
-/
theorem encoders_fail_first (source : Value) (writable : source.Writable) :
    FailsFirst Encode.proofBytes (fun _ => proofSteps) source ∧
      FailsFirst Encode.keyBytes keySteps source := by
  constructor
  · -- Every proof has the same steps.
    exact failsFirst_of_ended ended_proofBytes (fun _ _ _ inOrder _ => inOrder) writable
  · exact failsFirst_of_ended ended_keyBytes keySteps_shared writable

/-- A proof that lacks its second point and whose third one is no point either. -/
def gappedProof : Value :=
  .object [("pi_a", .list [.int 0, .int 0, .int 0]), ("pi_c", .null)]

/-- A proof that agrees with it as far as its encoder gets. -/
def barrenProof : Value :=
  .object [("other", .null), ("pi_a", .list [.int 0, .int 0, .int 0])]

/-- The numbers of the gapped proof are short. -/
theorem gappedProof_writable : gappedProof.Writable := by
  -- All of its numbers are zero.
  have short : 0 < Text.decimalBound := Nat.lt_of_lt_of_le (by decide) Text.fieldBound_le_decimalBound
  have zero : (Value.int 0).Writable := .int short
  have point : (Value.list [.int 0, .int 0, .int 0]).Writable := .list (by simpa using zero)
  exact .object (List.forall_mem_cons.mpr ⟨point, List.forall_mem_singleton.mpr .null⟩)

/-- The second point is the first thing that the encoder misses. -/
theorem gappedProof_fails : Step.FirstFailure gappedProof proofSteps [.find "pi_a", .g1 "pi_a"]
    (.find "pi_b") (Cause.missingField "pi_b").raise where
  -- The first point is found and read, and the key of the second one is missing.
  inOrder := ⟨[.g2 "pi_b", .find "pi_c", .g1 "pi_c"], rfl⟩
  earlier := List.forall_mem_cons.mpr ⟨rfl, List.forall_mem_singleton.mpr rfl⟩
  fails := rfl

/-- Both proofs fail for their second point, and what stands for the third one has no part in it. -/
theorem encoders_fail_first_gapped_and_barren :
    (Encode.proofBytes gappedProof).result = .error (Cause.missingField "pi_b").raise ∧
      (Encode.proofBytes barrenProof).result = .error (Cause.missingField "pi_b").raise := by
  -- Both values are alike in what the three first steps look at.
  have composed := (encoders_fail_first gappedProof gappedProof_writable).1
  have alike : ∀ seen ∈ [Step.find "pi_a", .g1 "pi_a", .find "pi_b"], seen.Alike gappedProof barrenProof :=
    List.forall_mem_cons.mpr ⟨rfl, List.forall_mem_cons.mpr ⟨rfl, List.forall_mem_singleton.mpr rfl⟩⟩
  exact ⟨(composed.fails _).mpr ⟨_, _, gappedProof_fails⟩,
    composed.unseen _ _ _ _ gappedProof_fails alike⟩

end Encode

end ProofWire
