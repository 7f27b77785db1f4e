import ProofWire.Proofs.Log.Format
import ProofWire.Proofs.Log.Listener
import ProofWire.Proofs.Log.Setup

/-! Runs of logging: whatever is done, each item leaves the queue once and in order, and a drain delivers what it takes. -/

namespace ProofWire.Log

/-- The verb takes the message for a part of the logger: a handler, a filter, or its name. -/
def Verb.takesPart : Verb → Bool
  | .attach | .detach | .addFilter | .removeFilter | .restart => true
  | _ => false

/-- No level of a report does that. -/
example : ∀ entry ∈ Verb.reports, entry.2.takesPart = false := by
  decide

/-- What is done to the state of logging. -/
inductive Action where
  /-- Sets up a logger. -/
  | setup (setup : State.Setup)
  /-- Logs a note through the logger of a name. -/
  | log (name : Value) (note : Note) (moment : Moment)
  /-- Puts an end mark into the queue. -/
  | mark
  /-- Drains the queue into the file. -/
  | drain (format : Value)

namespace Action

/-- The end marks that an action puts into the queue. -/
def marks : Action → List (Option Record)
  | .mark | .drain _ => [none]
  | _ => []

/-- The action drains the queue. -/
def isDrain : Action → Bool
  | .drain _ => true
  | _ => false

/-- The level of a note is one of a report, or one at which nothing is done to the parts of a logger. -/
def Levelled : Action → Prop
  | .log _ note _ => ∀ verb, Verb.ofLevel note.level = .ok verb → verb.takesPart = false
  | _ => True

end Action

/-- What an action leaves behind. -/
def State.act (state : State) : Action → Step Unit
  | .setup setup =>
    let step := state.setup setup
    ⟨step.state, step.output, step.result.map fun _ => ()⟩
  | .log name note moment =>
    match LoggerName.ofValue name with
    | .ok name => state.log name note moment
    | .error failure => state.quiet (.error failure)
  | .mark => state.mark.quiet (.ok ())
  | .drain format => state.drain format

/-- A step puts its records at the end of the queue, and these are settled. -/
structure Step.Enqueues {α : Type} (before : State) (step : Step α) : Prop where
  queue : step.state.queue = before.queue ++ step.output.queued.map some
  settled : ∀ record ∈ step.output.queued, record.Settled

namespace State

/-- A step that puts nothing out and keeps the queue enqueues nothing. -/
theorem enqueues_quiet {α : Type} {before state : State} (result : Except Failure α)
    (same : state.queue = before.queue) : (state.quiet result).Enqueues before where
  queue := same.trans (List.append_nil _).symm
  settled record member := by cases member

/-- Records that a logger publishes go into the queue settled. -/
theorem settled_of_publish {registry : Registry} {name : LoggerName} {record : Record} :
    ∀ entry ∈ (registry.publish name record).1.queued, entry.Settled := by
  -- The last resort writes to the stream only; all else goes through handlers.
  unfold Registry.publish
  split
  · intro entry member
    unfold lastResort at member
    split at member <;> cases member
  · exact settled_of_deliver

/-- A report enqueues the copies that queues take. -/
theorem enqueues_report (state : State) (name : LoggerName) (severity : Severity) (addsCause : Bool)
    (message : String) (moment : Moment) :
    (state.report name severity addsCause message moment).Enqueues state := by
  -- The question whether the report is taken leaves the queue as it is.
  have same : (state.decide name severity).1.queue = state.queue := by
    rcases state.decide_cases name severity with kept | ⟨_, asked⟩
    · rw [kept]
    · rw [asked]
  unfold report
  dsimp only
  split
  · exact enqueues_quiet _ same
  · split
    · exact enqueues_quiet _ same
    · exact ⟨congrArg (· ++ _) same, settled_of_publish⟩

/-- Whatever a logger does with a message, it enqueues what it puts out. -/
theorem enqueues_perform (state : State) (name : LoggerName) (message : String) (moment : Moment) (verb : Verb) :
    (state.perform name message moment verb).Enqueues state := by
  -- Reports are all that puts something out.
  cases verb with
  | report severity addsCause => exact enqueues_report state name severity addsCause message moment
  | restart => cases name <;> exact enqueues_quiet _ rfl
  | _ => exact enqueues_quiet _ rfl

/-- What becomes of a note: it is refused once its name is in use, or its logger does with its text what the level stands
for. -/
inductive Logs (state : State) (name : LoggerName) (note : Note) (moment : Moment) : Step Unit → Prop where
  | refused {failure : Failure} : Logs state name note moment ((state.use name).state.quiet (.error failure))
  | performed {verb : Verb} {message : String} (level : Verb.ofLevel note.level = .ok verb) :
    Logs state name note moment ((state.use name).state.perform name message moment verb)

/-- Every note fares in one of these ways. -/
theorem logs_log (state : State) (name : LoggerName) (note : Note) (moment : Moment) :
    state.Logs name note moment (state.log name note moment) := by
  -- The name comes first, then the level, and the text last.
  cases taken : (state.registry.use name).2 with
  | error failure =>
    simp only [log, use, quiet, taken]
    exact .refused
  | ok =>
    cases level : Verb.ofLevel note.level with
    | error failure =>
      simp only [log, use, quiet, taken, level]
      exact .refused
    | ok verb =>
      cases text : note.text with
      | error failure =>
        simp only [log, use, quiet, taken, level, text]
        exact .refused
      | ok message =>
        simp only [log, use, quiet, taken, level, text]
        exact .performed level

/-- A note enqueues what its logger puts out. -/
theorem enqueues_log (state : State) (name : LoggerName) (note : Note) (moment : Moment) :
    (state.log name note moment).Enqueues state := by
  have logs := state.logs_log name note moment
  generalize state.log name note moment = step at logs ⊢
  cases logs with
  | refused => exact enqueues_quiet _ rfl
  | @performed verb message =>
    -- Taking the name into use leaves the queue as it is.
    have performed := enqueues_perform (state.use name).state name message moment verb
    exact ⟨performed.queue, performed.settled⟩

/-- A setup enqueues nothing. -/
theorem enqueues_setup (state : State) (setup : Setup) : (state.setup setup).Enqueues state := by
  have ends := state.setsUp_setup setup
  generalize state.setup setup = step at ends ⊢
  -- However it ends, it is quiet, and loggers are all that it changes.
  cases ends <;> exact enqueues_quiet _ rfl

/-- What the listener puts back into the queue is settled. -/
theorem settled_of_passOn {state : State} {shown : Format} (record : Record) :
    ∀ entry ∈ (state.passOn shown record).1.queued, entry.Settled := by
  -- A listener with filters passes nothing on.
  unfold passOn pass
  split
  · exact settled_of_deliver
  · intro entry member
    cases member

/-- A drain takes the front of the queue with its mark, up to the first mark at most, and enqueues what it puts out. -/
theorem drain_front (state : State) (format : Value) :
    ∃ taken left, state.queue ++ [none] = taken ++ left ∧ none ∉ taken.dropLast ∧
      (state.drain format).state.queue = left ++ (state.drain format).output.queued.map some ∧
      ∀ record ∈ (state.drain format).output.queued, record.Settled := by
  -- Only a drain that gets as far as the listener takes anything.
  cases accepted : Format.ofValue format with
  | error failure =>
    rw [drain_of_rejected accepted]
    exact ⟨[], state.queue ++ [none], rfl, List.not_mem_nil, (List.append_nil _).symm, fun _ member => by cases member⟩
  | ok shown =>
    cases taken : (state.registry.use listener).2 with
    | error failure =>
      rw [drain_of_orphaned accepted taken]
      exact ⟨[], state.queue ++ [none], rfl, List.not_mem_nil, (List.append_nil _).symm,
        fun _ member => by cases member⟩
    | ok =>
      rw [drain_of_listening accepted taken]
      obtain ⟨front, same, within⟩ := consume_front (state.passOn shown) (state.queue ++ [none])
      exact ⟨front, _, same, within, rfl, settled_of_consume settled_of_passOn⟩

end State

/-- A state with an account of its queue: all items that ever entered it, and what each drain took, in order. -/
structure Ledger where
  state : State
  entered : List (Option Record)
  rounds : List (List (Option Record))

namespace Ledger

/-- At the start nothing has entered the queue. -/
def initial : Ledger :=
  ⟨State.initial, [], []⟩

/-- What is gone from a row of items of which the end is left. -/
def gone (items left : List (Option Record)) : List (Option Record) :=
  items.take (items.length - left.length)

/-- Acts on the state and enters what is added to the queue; a drain has the account of what it took. -/
def act (ledger : Ledger) (action : Action) : Ledger :=
  let step := ledger.state.act action
  let added := action.marks ++ step.output.queued.map some
  { state := step.state
    entered := ledger.entered ++ added
    rounds :=
      if action.isDrain then ledger.rounds ++ [gone (ledger.state.queue ++ added) step.state.queue]
      else ledger.rounds }

/-- The account after actions in order. -/
def run (actions : List Action) : Ledger :=
  actions.foldl act initial

/-- What is gone is the row of items before the end that is left. -/
theorem gone_append (taken left : List (Option Record)) : gone (taken ++ left) left = taken := by
  rw [gone, List.length_append, Nat.add_sub_cancel]
  exact List.take_left

variable {ledger : Ledger}

/-- A drain that leaves the end of the queue, with what it puts there, has taken what comes before. -/
theorem rounds_act_drain {format : Value} (taken left : List (Option Record))
    (row : ledger.state.queue ++ [none] = taken ++ left)
    (queue : (ledger.state.drain format).state.queue =
      left ++ (ledger.state.drain format).output.queued.map some) :
    (ledger.act (.drain format)).rounds = ledger.rounds ++ [taken] := by
  -- What was offered is the queue with the mark and with what came back to its end.
  have offered : ledger.state.queue ++
      ([none] ++ (ledger.state.drain format).output.queued.map some) =
        taken ++ (ledger.state.drain format).state.queue := by
    rw [queue, ← List.append_assoc, ← List.append_assoc, ← row]
  simp only [act, Action.isDrain, if_true, Action.marks, State.act, offered, gone_append]

/--
Each item that ever entered the queue was taken by one drain or is in the queue still, in the order of their entry, and no
drain took anything after an end mark.
-/
structure Balanced (ledger : Ledger) : Prop where
  order : ledger.entered = ledger.rounds.flatten ++ ledger.state.queue
  stops : ∀ round ∈ ledger.rounds, none ∉ round.dropLast

/-- An action that does not drain adds to the end of the queue and keeps the account balanced. -/
theorem Balanced.of_added (balanced : ledger.Balanced) {action : Action} (other : action.isDrain = false)
    (added : (ledger.state.act action).state.queue =
      ledger.state.queue ++ (action.marks ++ (ledger.state.act action).output.queued.map some)) :
    (ledger.act action).Balanced where
  -- Such an action opens no round, and what it adds enters at the end on both sides.
  order := by
    rw [act, other, if_neg (by decide), balanced.order, added, List.append_assoc]
  stops := by
    rw [act, other, if_neg (by decide)]
    exact balanced.stops

/-- Every action keeps the account balanced. -/
theorem Balanced.act (balanced : ledger.Balanced) (action : Action) : (ledger.act action).Balanced := by
  cases action with
  | setup setup => exact balanced.of_added rfl (State.enqueues_setup ledger.state setup).queue
  | log name note moment =>
    refine balanced.of_added rfl ?_
    cases named : LoggerName.ofValue name with
    | error failure =>
      simp only [State.act, named]
      exact (State.enqueues_quiet (Except.error failure : Except Failure Unit) rfl).queue
    | ok name =>
      simp only [State.act, named]
      exact (State.enqueues_log ledger.state name note moment).queue
  | mark => exact balanced.of_added rfl rfl
  | drain format =>
    -- The mark enters first, then what was taken moves from the queue to the account.
    obtain ⟨taken, left, row, within, queue, _⟩ := ledger.state.drain_front format
    have round := rounds_act_drain taken left row queue
    constructor
    · rw [round, List.flatten_append, List.flatten_singleton, List.append_assoc]
      show ledger.entered ++ ([none] ++ (ledger.state.drain format).output.queued.map some) =
        ledger.rounds.flatten ++ (taken ++ (ledger.state.drain format).state.queue)
      rw [queue, ← List.append_assoc taken, ← row, balanced.order]
      simp only [List.append_assoc]
    · rw [round]
      intro other member
      rcases List.mem_append.mp member with before | now
      · exact balanced.stops other before
      · rw [List.mem_singleton.mp now]
        exact within

/-- What holds at the start and is kept by the actions that are allowed holds after every run of them. -/
theorem invariant_run (Invariant : Ledger → Prop) {Allowed : Action → Prop} (start : Invariant initial)
    (kept : ∀ ledger action, Allowed action → Invariant ledger → Invariant (ledger.act action))
    {actions : List Action} (allowed : ∀ action ∈ actions, Allowed action) : Invariant (run actions) := by
  -- Induction on the actions, from whatever account the earlier ones have left.
  unfold run
  generalize initial = ledger at start ⊢
  induction actions generalizing ledger with
  | nil => exact start
  | cons action rest ih =>
    obtain ⟨first, later⟩ := List.forall_mem_cons.mp allowed
    exact ih later (ledger.act action) (kept ledger action first start)

/-- The account of every run is balanced. -/
theorem balanced_run (actions : List Action) : (run actions).Balanced := by
  have start : initial.Balanced := ⟨rfl, fun _ member => by cases member⟩
  exact invariant_run Balanced start (fun _ action _ balanced => balanced.act action) fun _ _ => trivial

end Ledger

namespace State

/-- The registry is intact, and all records in the queue are settled. -/
structure Orderly (state : State) : Prop where
  intact : state.registry.Intact
  settled : ∀ record, some record ∈ state.queue → record.Settled

/-- Attaching the queue or a stream does no harm. -/
theorem intact_attach (state : State) (intact : state.registry.Intact) (name : LoggerName) {handler : Handler}
    (plain : handler.IsPlain) : (state.attach name handler).registry.Intact := by
  refine intact.change name (fun logger => if logger.handlers.contains handler then logger
    else { logger with handlers := logger.handlers ++ [handler] }) ?_ ?_ fun other member => ?_
  · split <;> rfl
  · split <;> rfl
  · -- A handler is one of those that were there, or it is the new one.
    split at member
    · exact Or.inl member
    · rcases List.mem_append.mp member with before | now
      · exact Or.inl before
      · rw [List.mem_singleton.mp now]
        exact Or.inr plain

/-- Setting a level does no harm. -/
theorem intact_setLevel (state : State) (intact : state.registry.Intact) (name : LoggerName) (rank : Nat) :
    (state.setLevel name rank).registry.Intact :=
  intact.change name (fun logger => { logger with level := rank }) rfl rfl fun _ member => Or.inl member

/-- A verb that takes no part of a logger leaves all loggers as they are, or takes another name into use. -/
theorem registry_perform (state : State) (name : LoggerName) (message : String) (moment : Moment) {verb : Verb}
    (other : verb.takesPart = false) :
    (state.perform name message moment verb).state.registry = state.registry ∨
      ∃ child, (state.perform name message moment verb).state.registry = (state.registry.use child).1 := by
  -- Of the verbs that are left, one takes a name into use, and none touches a logger.
  cases verb with
  | report severity addsCause => exact Or.inl (state.report_frame name severity addsCause message moment).1
  | child => exact Or.inr ⟨state.childName name message, rfl⟩
  | attach | detach | addFilter | removeFilter | restart => cases other
  | _ => exact Or.inl rfl

/-- A note does no harm at a level that takes no part of a logger. -/
theorem intact_log {state : State} (intact : state.registry.Intact) (name : LoggerName) {note : Note}
    (moment : Moment) (levelled : ∀ verb, Verb.ofLevel note.level = .ok verb → verb.takesPart = false) :
    (state.log name note moment).state.registry.Intact := by
  have logs := state.logs_log name note moment
  generalize state.log name note moment = step at logs ⊢
  -- All that happens to the loggers is that names come into use.
  cases logs with
  | refused => exact intact.use name
  | performed level =>
    rcases (state.use name).state.registry_perform name _ moment (levelled _ level) with kept | ⟨child, used⟩
    · rw [kept]
      exact intact.use name
    · rw [used]
      exact (intact.use name).use child

/-- A setup does no harm. -/
theorem intact_setup {state : State} (intact : state.registry.Intact) (setup : Setup) :
    (state.setup setup).state.registry.Intact := by
  -- A setup takes a name into use, sets a level and attaches the queue or a stream.
  have leveled : ∀ name rank, (state.leveled name rank).registry.Intact := fun name rank =>
    intact_setLevel (state.use name).state (intact.use name) name rank
  have ends := state.setsUp_setup setup
  generalize state.setup setup = step at ends ⊢
  cases ends with
  | unnamed => exact intact
  | orphaned | unleveled => exact intact.use _
  | unformatted | present => exact leveled _ _
  | queue => exact intact_attach _ (leveled _ _) _ (Or.inl rfl)
  | stream => exact intact_attach _ (leveled _ _) _ (Or.inr rfl)

/-- A drain does no harm. -/
theorem intact_drain {state : State} (intact : state.registry.Intact) (format : Value) :
    (state.drain format).state.registry.Intact := by
  -- The file is attached for the time of the drain only; what stays is the level of the listener.
  cases accepted : Format.ofValue format with
  | error failure =>
    rw [drain_of_rejected accepted]
    exact intact
  | ok shown =>
    rw [drain_of_listening accepted intact.use_listener]
    exact intact_setLevel (state.mark.use listener).state (intact.use listener) listener Severity.debug.rank

/-- Records of two parts of a queue are settled when those of each part are. -/
theorem settled_append {items : List (Option Record)} {records : List Record}
    (before : ∀ record, some record ∈ items → record.Settled) (added : ∀ record ∈ records, record.Settled) :
    ∀ record, some record ∈ items ++ records.map some → record.Settled := by
  -- An item was there before, or it is one of those added.
  intro record member
  rcases List.mem_append.mp member with old | new
  · exact before record old
  · obtain ⟨entry, there, same⟩ := List.mem_map.mp new
    cases same
    exact added record there

/-- What a drain is offered is settled: the queue, and the end mark behind it. -/
theorem Orderly.settled_of_offered {state : State} (orderly : state.Orderly) {record : Record}
    (offered : some record ∈ state.queue ++ [none]) : record.Settled := by
  -- The end mark is no record.
  rcases List.mem_append.mp offered with old | new
  · exact orderly.settled record old
  · cases List.mem_singleton.mp new

/-- Every action keeps a state orderly at a level that takes no part of a logger. -/
theorem Orderly.act {state : State} (orderly : state.Orderly) {action : Action} (levelled : action.Levelled) :
    (state.act action).state.Orderly := by
  cases action with
  | setup setup =>
    have enqueues := enqueues_setup state setup
    refine ⟨intact_setup orderly.intact setup, ?_⟩
    rw [show (state.act (.setup setup)).state.queue = _ from enqueues.queue]
    exact settled_append orderly.settled enqueues.settled
  | log name note moment =>
    cases named : LoggerName.ofValue name with
    | error failure =>
      simp only [State.act, named]
      exact orderly
    | ok name =>
      simp only [State.act, named]
      have enqueues := enqueues_log state name note moment
      refine ⟨intact_log orderly.intact name moment levelled, ?_⟩
      rw [enqueues.queue]
      exact settled_append orderly.settled enqueues.settled
  | mark =>
    refine ⟨orderly.intact, fun record member => ?_⟩
    rcases List.mem_append.mp member with old | new
    · exact orderly.settled record old
    · cases List.mem_singleton.mp new
  | drain format =>
    -- What is left was in the queue before, and what comes back was settled on its way.
    obtain ⟨taken, left, split, _, queue, settled⟩ := state.drain_front format
    refine ⟨intact_drain orderly.intact format, ?_⟩
    rw [show (state.act (.drain format)).state.queue = _ from queue]
    refine settled_append (fun record member => orderly.settled_of_offered ?_) settled
    rw [split]
    exact List.mem_append_right _ member

/-- A record as it comes to the file: the handlers of the listener may have worked out its time. -/
def arriving (state : State) (record : Record) : Record :=
  (state.logger listener).handlers.foldl Handler.leave record

/-- The copies of a record that queues among the handlers of the listener and the root put back. -/
def copies (state : State) (shown : Format) (record : Record) : List Record :=
  (arrivals record (state.outlets shown)).flatMap fun arrival => arrival.1.copies arrival.2

/-- Handlers none of which writes to the file leave no lines there. -/
theorem fileLines_eq_nil {record : Record} {handlers : List Handler}
    (plain : ∀ handler ∈ handlers, handler.IsPlain) :
    (arrivals record handlers).flatMap (fun arrival => arrival.1.fileLines arrival.2) = [] := by
  -- Of all handlers only the file leaves lines, and it is not plain.
  refine List.flatMap_eq_nil_iff.mpr fun arrival member => ?_
  obtain ⟨handler, arrived⟩ := arrival
  cases handler with
  | file format => rcases plain _ (mem_of_mem_arrivals member) with same | stream <;> contradiction
  | _ => rfl

/-- The listener passes a settled record on: it leaves its line in the file, and a copy for each queue. -/
theorem passOn_of_settled {state : State} (intact : state.registry.Intact) (shown : Format) {record : Record}
    (settled : record.Settled) :
    (state.passOn shown record).2 = .ok () ∧
      (state.passOn shown record).1.file = Handler.lines shown (state.arriving record) ∧
      (state.passOn shown record).1.queued = state.copies shown record := by
  have unfiltered : (state.listening.logger listener).filters = [] :=
    (own_listening state listener).2.trans (intact.unfiltered listener)
  have own : ∀ handler ∈ (state.logger listener).handlers, handler.IsPlain := intact.plain listener
  have above : ∀ handler ∈ (state.logger .root).handlers, handler.IsPlain := intact.plain .root
  have step : state.passOn shown record = deliver record (state.outlets shown) := by
    rw [passOn, pass, unfiltered, handlers_draining intact]
    rfl
  -- The file takes records as the queue and the streams do.
  have takes : ∀ content, Handler.text content ∉ state.outlets shown := by
    intro content member
    rcases List.mem_append.mp member with first | later
    · rcases own _ first with same | stream <;> contradiction
    · rcases List.mem_cons.mp later with same | last
      · cases same
      · rcases above _ last with same | stream <;> contradiction
  obtain ⟨done, file, queued⟩ := deliver_of_settled settled takes
  rw [step]
  refine ⟨done, ?_, queued⟩
  -- It is the only handler that writes there, and it comes right after those of the listener.
  rw [file, outlets, arrivals_append, arrivals, List.flatMap_append, List.flatMap_cons,
    fileLines_eq_nil own, fileLines_eq_nil above, List.nil_append, List.append_nil]
  rfl

/--
A drain delivers a row of records from the front of the queue, and leaves the rest behind the first end mark.

It is a run through the queue as it is, with what goes back into it meanwhile. When the format shows all of the records,
the file has their texts, each on a line. Behind the rest there are the copies that queues put back, record by record.
The handlers of the listener are what they were.
-/
structure Delivers (state : State) (format : Value) (shown : Format) (records : List Record)
    (rest : List (Option Record)) : Prop where
  done : (state.drain format).result = .ok ()
  served : Serves (state.passOn shown) (state.queue ++ [none]) (state.drain format).output
    (state.drain format).state.queue (state.drain format).result
  file : ∀ texts : List String, records.map (fun record => shown.render? (state.arriving record)) = texts.map some →
    (state.drain format).output.file = texts.map (· ++ "\n")
  queued : (state.drain format).output.queued = records.flatMap (state.copies shown)
  queue : (state.drain format).state.queue = rest ++ (state.drain format).output.queued.map some
  handlers : ((state.drain format).state.logger listener).handlers = (state.logger listener).handlers

/-- Records that a format shows leave their texts, each on a line. -/
theorem flatMap_lines {shown : Format} {records : List Record} {texts : List String}
    (rendered : records.map shown.render? = texts.map some) :
    records.flatMap (Handler.lines shown) = texts.map (· ++ "\n") := by
  -- Each record has its text, in step with the row of texts.
  induction records generalizing texts with
  | nil =>
    cases texts with
    | nil => rfl
    | cons text later => cases rendered
  | cons record rest ih =>
    cases texts with
    | nil => cases rendered
    | cons text later =>
      obtain ⟨first, others⟩ := List.cons.inj rendered
      rw [List.flatMap_cons, ih others, Handler.lines, first]
      rfl

/-- An orderly state delivers what comes before the first end mark. -/
theorem Orderly.delivers {state : State} (orderly : state.Orderly) {format : Value} {shown : Format}
    (accepted : Format.ofValue format = .ok shown) {records : List Record} {rest : List (Option Record)}
    (row : state.queue ++ [none] = records.map some ++ none :: rest) :
    state.Delivers format shown records rest := by
  -- All records in the queue are settled, so that the listener passes each of them on.
  have passes : ∀ record ∈ records, (state.passOn shown record).2 = .ok () ∧
      (state.passOn shown record).1.file = Handler.lines shown (state.arriving record) ∧
      (state.passOn shown record).1.queued = state.copies shown record := by
    intro record member
    refine passOn_of_settled orderly.intact shown (orderly.settled_of_offered ?_)
    rw [row]
    exact List.mem_append_left _ (List.mem_map_of_mem member)
  have drained := drain_of_listening accepted orderly.intact.use_listener
  obtain ⟨left, file, queued⟩ := consume_row rest passes
  rw [← row] at left file queued
  have marked : none ∈ state.queue ++ [none] := List.mem_append_right _ List.mem_cons_self
  have served : Serves (state.passOn shown) (state.queue ++ [none] ++ []) _ _ _ := serves_consume marked []
  constructor
  · rw [drained, left]
  · rw [List.append_nil, List.append_nil] at served
    rw [drained]
    exact served
  · intro texts rendered
    have lines := flatMap_lines (List.map_map.trans rendered)
    rw [List.flatMap_map] at lines
    rw [drained]
    exact file.trans lines
  · rw [drained, queued]
  · rw [drained]
    show (consume (state.passOn shown) (state.queue ++ [none])).2.1 ++ _ = _
    rw [left]
  · rw [drained]
    exact (own_listening state listener).1

end State

namespace Ledger

/-- A run leaves an orderly state. -/
theorem orderly_run {actions : List Action} (levelled : ∀ action ∈ actions, action.Levelled) :
    (run actions).state.Orderly := by
  -- It holds at the start, and each action keeps it.
  have start : initial.state.Orderly := ⟨Registry.intact_initial, fun _ member => by cases member⟩
  exact invariant_run (fun ledger => ledger.state.Orderly) start
    (fun _ _ allowed orderly => orderly.act allowed) levelled

/--
Queue logging loses, duplicates and reorders nothing.

After every run each item that ever entered the queue was taken by one drain or is in the queue still, in order, and no
drain took anything after an end mark. A drain whose format is rejected takes nothing. One whose format is accepted takes
the records before the first end mark, and the mark, and delivers them.
-/
theorem queue_logging_keeps_records (actions : List Action) (levelled : ∀ action ∈ actions, action.Levelled) :
    (run actions).Balanced ∧
    (∀ format failure, Format.ofValue format = .error failure →
      (run actions).state.drain format = (run actions).state.mark.quiet (.error failure) ∧
      ((run actions).act (.drain format)).rounds = (run actions).rounds ++ [[]]) ∧
    ∃ (records : List Record) (rest : List (Option Record)),
      (run actions).state.queue ++ [none] = records.map some ++ none :: rest ∧
      ∀ format shown, Format.ofValue format = .ok shown →
        (run actions).state.Delivers format shown records rest ∧
        ((run actions).act (.drain format)).rounds = (run actions).rounds ++ [records.map some ++ [none]] := by
  refine ⟨balanced_run actions, fun format failure rejected => ?_, ?_⟩
  · have drained : (run actions).state.drain format = _ := State.drain_of_rejected rejected
    refine ⟨drained, rounds_act_drain [] ((run actions).state.queue ++ [none]) rfl ?_⟩
    rw [drained]
    exact (List.append_nil _).symm
  · -- A drain puts a mark at the end first, so that there is always one to stop at.
    have marked : none ∈ (run actions).state.queue ++ [none] := List.mem_append_right _ List.mem_cons_self
    obtain ⟨records, rest, row⟩ := exists_row marked
    refine ⟨records, rest, row, fun format shown accepted => ?_⟩
    have delivers := (orderly_run levelled).delivers accepted row
    refine ⟨delivers, rounds_act_drain _ rest ?_ delivers.queue⟩
    rw [row, List.append_assoc]
    rfl

/-- A setup of a logger that puts its records into the queue. -/
def queueSetup (name : String) : Action :=
  .setup ⟨true, .text name, .text "INFO", .text Format.standard.text⟩

/-- A moment at noon. -/
def noon : Moment :=
  { (default : Moment) with time := "12:00" }

/-- A message at noon for the logger of a name, to be reported as information. -/
def entry (name message : String) : Action :=
  .log (.text name) ⟨.text "c", .text "m", .text message, .text "info"⟩ noon

/-- These messages are at a level of a report. -/
theorem levelled_entry (name message : String) : (entry name message).Levelled := by
  -- The level is the name of a report.
  intro verb level
  cases level
  rfl

/-- The record of such a message in the queue, before or after its time was worked out. -/
def queuedRecord (name message : String) (hasTime : Bool) : Record :=
  ⟨name, .info, message, noon, false, false, hasTime, true⟩

/-- A drain stops at an end mark, and the root puts a copy of what it delivers behind the rest. -/
theorem queue_logging_keeps_records_around_mark :
    (∀ action ∈ [queueSetup "", entry "w" "a", .mark, entry "w" "b"], action.Levelled) ∧
      ((run [queueSetup "", entry "w" "a", .mark, entry "w" "b"]).state.drain
        (.text Format.standard.text)).output.file = ["[[12:00] [c] [m]]: a\n"] ∧
      ((run [queueSetup "", entry "w" "a", .mark, entry "w" "b"]).state.drain
        (.text Format.standard.text)).state.queue =
          [some (queuedRecord "w" "[c] [m]]: b" false), none, some (queuedRecord "w" "[c] [m]]: a" true)] := by
  have levelled : ∀ action ∈ [queueSetup "", entry "w" "a", .mark, entry "w" "b"], action.Levelled := by
    simp only [List.forall_mem_cons, levelled_entry, true_and]
    exact ⟨trivial, trivial, List.forall_mem_nil _⟩
  have keeps := queue_logging_keeps_records [queueSetup "", entry "w" "a", .mark, entry "w" "b"] levelled
  -- What the run leaves can be computed; the theorem says how the drain goes on from there.
  have held : (run [queueSetup "", entry "w" "a", .mark, entry "w" "b"]).state.queue =
      [some (queuedRecord "w" "[c] [m]]: a" false), none, some (queuedRecord "w" "[c] [m]]: b" false)] := rfl
  have own : ((run [queueSetup "", entry "w" "a", .mark, entry "w" "b"]).state.logger State.listener).handlers = [] :=
    rfl
  have above : ((run [queueSetup "", entry "w" "a", .mark, entry "w" "b"]).state.logger .root).handlers = [.queue] :=
    rfl
  refine ⟨levelled, ?_⟩
  generalize run [queueSetup "", entry "w" "a", .mark, entry "w" "b"] = ledger at *
  obtain ⟨records, rest, row, drains⟩ := keeps.2.2
  obtain ⟨delivers, _⟩ := drains (.text Format.standard.text) Format.standard rfl
  -- There is one record before the first end mark.
  obtain ⟨rfl, rfl⟩ : records = [queuedRecord "w" "[c] [m]]: a" false] ∧
      rest = [some (queuedRecord "w" "[c] [m]]: b" false), none] := by
    rw [held] at row
    match records with
    | [] => cases row
    | [record] =>
      cases row
      exact ⟨rfl, rfl⟩
    | _ :: _ :: _ => cases row
  constructor
  · refine delivers.file ["[[12:00] [c] [m]]: a"] ?_
    rw [List.map_singleton, State.arriving, own, List.foldl_nil, Format.render?_standard rfl]
    rfl
  · -- The file comes before the root, and its format has asked for the time.
    have timed : (Handler.file Format.standard).leave (queuedRecord "w" "[c] [m]]: a" false) =
        queuedRecord "w" "[c] [m]]: a" true := by
      rw [Handler.leave, Format.asksTime_standard]
      exact ite_self _
    have copied : State.copies ledger.state Format.standard (queuedRecord "w" "[c] [m]]: a" false) =
        [queuedRecord "w" "[c] [m]]: a" true] := by
      simp only [State.copies, State.outlets, own, above, arrivals, List.nil_append, List.flatMap_cons,
        List.flatMap_nil, List.append_nil, Handler.copies, timed]
    rw [delivers.queue, delivers.queued, List.flatMap_singleton, copied]
    rfl

end Ledger

end ProofWire.Log
