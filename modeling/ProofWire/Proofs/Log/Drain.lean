import ProofWire.Proofs.Log.Registry

/-! Draining: records that go back into the queue at once come after its first end mark, where every drain ends. -/

namespace ProofWire.Log

namespace Record

/-- A record is settled when another queue would leave it as it is. -/
def Settled (record : Record) : Prop :=
  record.queued = record

/-- A queue settles records. -/
theorem settled_queued (record : Record) : record.queued.Settled :=
  queued_queued record

/-- Working out the time keeps a record settled. -/
theorem Settled.timed {record : Record} (settled : record.Settled) (asksTime : Bool) :
    (record.timed asksTime).Settled :=
  -- A queue does not touch what is known of the time.
  congrArg (Record.timed · asksTime) settled

/-- Writing a settled record leaves it as it is. -/
theorem Settled.written_eq {record : Record} (settled : record.Settled) : record.written = record := by
  -- It adds no cause, and none has been worked out.
  have adds : false = record.addsCause := congrArg addsCause settled
  have has : false = record.hasCause := congrArg hasCause settled
  exact congrArg (fun flag => { record with hasCause := flag }) (adds.symm.trans has)

end Record

namespace Output

/-- What goes to the file comes in the order of the outputs. -/
@[simp] theorem file_append (first second : Output) : (first ++ second).file = first.file ++ second.file :=
  rfl

/-- What goes to the queue comes in the order of the outputs. -/
@[simp] theorem queued_append (first second : Output) :
    (first ++ second).queued = first.queued ++ second.queued :=
  rfl

end Output

namespace Handler

/-- What a handler writes to the file. -/
def fileLines (record : Record) : Handler → List String
  | .file format => lines format record
  | _ => []

/-- What a handler puts into the queue. -/
def copies (record : Record) : Handler → List Record
  | .queue => [record]
  | _ => []

/-- Handlers that take records, none of which writes to the file: the queue and streams. -/
def IsPlain (handler : Handler) : Prop :=
  handler = .queue ∨ handler.isStream = true

/-- Every handler leaves a settled record settled. -/
theorem settled_leave (handler : Handler) {record : Record} (settled : record.Settled) :
    (handler.leave record).Settled := by
  cases handler with
  | stream format | file format =>
    -- The time may be worked out, and there is no cause to be worked out.
    have timed := settled.timed format.asksTime
    rw [leave, timed.written_eq, ite_self]
    exact timed
  | queue =>
    rw [leave, settled.written_eq]
    exact settled
  | text content => exact settled

end Handler

/-- The record as it arrives at each of the handlers that it passes. -/
def arrivals (record : Record) : List Handler → List (Handler × Record)
  | [] => []
  | handler :: rest => (handler, record) :: arrivals (handler.leave record) rest

/-- Behind some handlers a record arrives as they leave it. -/
theorem arrivals_append (record : Record) (front back : List Handler) :
    arrivals record (front ++ back) = arrivals record front ++ arrivals (front.foldl Handler.leave record) back := by
  -- Each handler of the front hands its record on to the next one.
  induction front generalizing record with
  | nil => rfl
  | cons handler rest ih => exact congrArg ((handler, record) :: ·) (ih (handler.leave record))

/-- A record arrives at the handlers that it passes and at no others. -/
theorem mem_of_mem_arrivals {record : Record} {handlers : List Handler} {arrival : Handler × Record}
    (member : arrival ∈ arrivals record handlers) : arrival.1 ∈ handlers := by
  -- Whatever a handler leaves of the record, the next arrival is at the next handler.
  induction handlers generalizing record with
  | nil => cases member
  | cons handler rest ih =>
    rcases List.mem_cons.mp member with rfl | later
    · exact List.mem_cons_self
    · exact List.mem_cons_of_mem handler (ih later)

/-- Records that handlers put into the queue are settled. -/
theorem settled_of_deliver {record : Record} {handlers : List Handler} :
    ∀ entry ∈ (deliver record handlers).1.queued, entry.Settled := by
  -- Only a queue puts anything there, and it settles the record first.
  induction handlers generalizing record with
  | nil =>
    intro entry member
    cases member
  | cons handler rest ih =>
    intro entry member
    cases handler with
    | stream format => exact ih entry member
    | file format => exact ih entry member
    | queue =>
      rcases List.mem_cons.mp member with rfl | later
      · exact record.settled_queued
      · exact ih entry later
    | text content => cases member

/-- A settled record passes handlers none of which is a text, and each of them does with it what it does. -/
theorem deliver_of_settled {record : Record} (settled : record.Settled) {handlers : List Handler}
    (takes : ∀ content, Handler.text content ∉ handlers) :
    (deliver record handlers).2 = .ok () ∧
      (deliver record handlers).1.file =
        (arrivals record handlers).flatMap (fun arrival => arrival.1.fileLines arrival.2) ∧
      (deliver record handlers).1.queued =
        (arrivals record handlers).flatMap (fun arrival => arrival.1.copies arrival.2) := by
  -- Whatever a handler does, it leaves a settled record for the next one.
  induction handlers generalizing record with
  | nil => exact ⟨rfl, rfl, rfl⟩
  | cons handler rest ih =>
    obtain ⟨done, file, queued⟩ :=
      ih (handler.settled_leave settled) fun content member => takes content (List.mem_cons_of_mem _ member)
    cases handler with
    | stream format | file format =>
      rw [deliver]
      simp only [Handler.emit?, Output.file_append, Output.queued_append, arrivals, List.flatMap_cons]
      exact ⟨done, by rw [file]; rfl, by rw [queued]; rfl⟩
    | queue =>
      rw [deliver]
      simp only [Handler.emit?, Output.file_append, Output.queued_append, arrivals, List.flatMap_cons]
      exact ⟨done, by rw [file]; rfl, by rw [queued, settled]; rfl⟩
    | text content => exact absurd List.mem_cons_self (takes content)

/-- A queue with an end mark is a row of records, the mark and a rest. -/
theorem exists_row {items : List (Option Record)} (marked : none ∈ items) :
    ∃ (records : List Record) (rest : List (Option Record)), items = records.map some ++ none :: rest := by
  -- The row is what comes before the first mark.
  induction items with
  | nil => cases marked
  | cons first later ih =>
    cases first with
    | none => exact ⟨[], later, rfl⟩
    | some record =>
      obtain ⟨records, rest, same⟩ := ih (by simpa using marked)
      exact ⟨record :: records, rest, by rw [same]; rfl⟩

/--
Serving a queue as it is: the first item is taken, an end mark ends this, and what comes of a record goes to the end of
the queue before the next item is taken.

There is no case for an empty queue, for which one would wait without end.
-/
inductive Serves (next : Record → Output × Except Failure Unit) :
    List (Option Record) → Output → List (Option Record) → Except Failure Unit → Prop where
  | stop {rest : List (Option Record)} : Serves next (none :: rest) Output.nothing rest (.ok ())
  | fail {record : Record} {rest : List (Option Record)} {output : Output} {failure : Failure}
    (handled : next record = (output, .error failure)) :
    Serves next (some record :: rest) output (rest ++ output.queued.map some) (.error failure)
  | pass {record : Record} {rest left : List (Option Record)} {output later : Output} {result : Except Failure Unit}
    (handled : next record = (output, .ok ()))
    (onward : Serves next (rest ++ output.queued.map some) later left result) :
    Serves next (some record :: rest) (output ++ later) left result

/-- A queue is served in one way at most. -/
theorem Serves.unique {next : Record → Output × Except Failure Unit} {items left left' : List (Option Record)}
    {output output' : Output} {result result' : Except Failure Unit} (first : Serves next items output left result)
    (second : Serves next items output' left' result') : output = output' ∧ left = left' ∧ result = result' := by
  -- What comes of the first record fixes how the serving goes on.
  induction first generalizing output' with
  | stop =>
    cases second
    exact ⟨rfl, rfl, rfl⟩
  | fail handled =>
    cases second with
    | fail other =>
      cases handled.symm.trans other
      exact ⟨rfl, rfl, rfl⟩
    | pass other => cases handled.symm.trans other
  | pass handled onward ih =>
    cases second with
    | fail other => cases handled.symm.trans other
    | pass other later =>
      cases handled.symm.trans other
      obtain ⟨rfl, same⟩ := ih later
      exact ⟨rfl, same⟩

namespace State

section Consume

variable {next : Record → Output × Except Failure Unit}

/-- A queue with an end mark is served to the end, and what goes back into it is left behind what it held. -/
theorem serves_consume {items : List (Option Record)} (marked : none ∈ items) (back : List (Option Record)) :
    Serves next (items ++ back) (consume next items).1
      ((consume next items).2.1 ++ back ++ (consume next items).1.queued.map some) (consume next items).2.2 := by
  -- What has gone back so far never comes before the mark.
  induction items generalizing back with
  | nil => cases marked
  | cons first rest ih =>
    cases first with
    | none =>
      have stop : Serves next (none :: (rest ++ back)) Output.nothing (rest ++ back) (.ok ()) := .stop
      simpa only [consume, Output.nothing, List.map_nil, List.append_nil, List.cons_append] using stop
    | some record =>
      rw [consume]
      cases handled : next record with
      | mk output result =>
        cases result with
        | error failure => exact .fail handled
        | ok =>
          have later := ih (by simpa using marked) (back ++ output.queued.map some)
          rw [← List.append_assoc] at later
          have pass := Serves.pass handled later
          simpa only [Output.queued_append, List.map_append, List.append_assoc, List.cons_append] using pass

/-- What is taken from the queue is its front, and nothing is taken after an end mark. -/
theorem consume_front (next : Record → Output × Except Failure Unit) (items : List (Option Record)) :
    ∃ taken, items = taken ++ (consume next items).2.1 ∧ none ∉ taken.dropLast := by
  -- Items are taken one by one, and after a mark or a failure the rest is left.
  induction items with
  | nil => exact ⟨[], rfl, List.not_mem_nil⟩
  | cons first rest ih =>
    cases first with
    | none => exact ⟨[none], rfl, List.not_mem_nil⟩
    | some record =>
      rw [consume]
      cases handled : next record with
      | mk output result =>
        cases result with
        | error failure => exact ⟨[some record], rfl, List.not_mem_nil⟩
        | ok =>
          obtain ⟨taken, same, within⟩ := ih
          refine ⟨some record :: taken, congrArg (some record :: ·) same, ?_⟩
          cases taken with
          | nil => exact List.not_mem_nil
          | cons second others =>
            rw [List.dropLast_cons_cons]
            simpa using within

/-- A row of records that all pass is consumed with its mark. -/
theorem consume_row {records : List Record} (rest : List (Option Record)) {lines : Record → List String}
    {copies : Record → List Record}
    (handled : ∀ record ∈ records, (next record).2 = .ok () ∧ (next record).1.file = lines record ∧
      (next record).1.queued = copies record) :
    (consume next (records.map some ++ none :: rest)).2 = (rest, .ok ()) ∧
      (consume next (records.map some ++ none :: rest)).1.file = records.flatMap lines ∧
      (consume next (records.map some ++ none :: rest)).1.queued = records.flatMap copies := by
  -- Each record passes, so that the next one is taken, until the mark ends it.
  induction records with
  | nil => exact ⟨rfl, rfl, rfl⟩
  | cons record others ih =>
    obtain ⟨first, later⟩ := List.forall_mem_cons.mp handled
    obtain ⟨done, file, queued⟩ := first
    obtain ⟨left, files, copied⟩ := ih later
    rw [List.map_cons, List.cons_append, consume]
    cases passed : next record with
    | mk output result =>
      rw [passed] at done file queued
      dsimp only at done file queued
      subst done
      dsimp only
      rw [Output.file_append, Output.queued_append, file, files, queued, copied, List.flatMap_cons,
        List.flatMap_cons]
      exact ⟨left, rfl, rfl⟩

/-- Records that come of a queue are settled when each step settles those that come of it. -/
theorem settled_of_consume (settles : ∀ record, ∀ entry ∈ (next record).1.queued, entry.Settled)
    {items : List (Option Record)} : ∀ entry ∈ (consume next items).1.queued, entry.Settled := by
  -- What comes of the queue is what came of its single records.
  induction items with
  | nil =>
    intro entry member
    cases member
  | cons first rest ih =>
    intro entry member
    cases first with
    | none => cases member
    | some record =>
      -- A failure ends it, but what the failing record put out counts as well.
      have here := settles record
      rw [consume] at member
      cases handled : next record with
      | mk output result =>
        rw [handled] at member here
        cases result with
        | error failure => exact here entry member
        | ok =>
          rcases List.mem_append.mp member with now | later
          · exact here entry now
          · exact ih entry later

end Consume

/-- The state in which the listener takes records: its name is in use, and its level is the lowest. -/
def listening (state : State) : State :=
  (state.mark.use listener).state.setLevel listener Severity.debug.rank

/-- How the listener passes a record on while it has the file as a further handler. -/
def passOn (state : State) (format : Format) : Record → Output × Except Failure Unit :=
  pass (state.listening.logger listener)
    ((state.listening.attach listener (.file format)).registry.handlers listener)

variable {state : State} {format : Value} {shown : Format}

/-- A rejected format leaves everything as it is but for the mark. -/
theorem drain_of_rejected {failure : Failure} (rejected : Format.ofValue format = .error failure) :
    state.drain format = state.mark.quiet (.error failure) := by
  simp only [drain, rejected]

/-- The listener cannot be taken into use, so that nothing is taken from the queue. -/
theorem drain_of_orphaned {failure : Failure} (accepted : Format.ofValue format = .ok shown)
    (orphaned : (state.registry.use listener).2 = .error failure) :
    state.drain format = (state.mark.use listener).state.quiet (.error failure) := by
  simp only [drain, accepted, use, mark, orphaned, quiet]

/-- A drain through the listener consumes the queue with its mark. -/
theorem drain_of_listening (accepted : Format.ofValue format = .ok shown)
    (taken : (state.registry.use listener).2 = .ok ()) :
    state.drain format =
      ⟨State.enqueue { state.listening with queue := (consume (state.passOn shown) (state.queue ++ [none])).2.1 }
          (consume (state.passOn shown) (state.queue ++ [none])).1.queued,
        (consume (state.passOn shown) (state.queue ++ [none])).1,
        (consume (state.passOn shown) (state.queue ++ [none])).2.2⟩ := by
  simp only [drain, accepted, use, mark, taken, quiet]
  rfl

end State

end ProofWire.Log
