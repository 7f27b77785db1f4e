import ProofWire.Proofs.Log.Run

/-! Attachment: no handler is attached twice, and what is attached comes behind what is there. -/

namespace ProofWire.Log

namespace Handler

/-- The queue once at most, a stream once at most, and no other handler. -/
structure Single (handlers : List Handler) : Prop where
  queue : handlers.count .queue ≤ 1
  stream : handlers.countP isStream ≤ 1
  plain : ∀ handler ∈ handlers, handler.IsPlain

/-- What becomes of the handlers of one logger: they stay, or the queue or a stream comes behind them that is not there
yet. -/
inductive Grows (before : List Handler) : List Handler → Prop where
  | kept : Grows before before
  | queue (fresh : .queue ∉ before) : Grows before (before ++ [.queue])
  | stream {format : Format} (fresh : before.any isStream = false) : Grows before (before ++ [.stream format])

variable {before after : List Handler}

/-- The handlers that are there stay at the front. -/
theorem Grows.isPrefix (grows : Grows before after) : before <+: after := by
  -- Whatever is new comes at the end.
  cases grows with
  | kept => exact List.prefix_rfl
  | queue | stream => exact List.prefix_append _ _

/-- There is room for one more plain handler where there is none of its kind. -/
theorem Single.append (single : Single before) {handler : Handler} (plain : handler.IsPlain)
    (queue : handler = .queue → .queue ∉ before) (stream : handler.isStream = true → before.any isStream = false) :
    Single (before ++ [handler]) where
  queue := by
    rw [List.count_append, List.count_singleton]
    split
    · -- This one is the queue, and there was none.
      rename_i same
      rw [List.count_eq_zero_of_not_mem (queue (eq_of_beq same))]
    · exact single.queue
  stream := by
    rw [List.countP_append, List.countP_singleton]
    split
    · -- This one is a stream, and there was none.
      rename_i kind
      have none : before.countP isStream = 0 :=
        List.countP_eq_zero.mpr (List.any_eq_false.mp (stream kind))
      rw [none]
    · exact single.stream
  plain := by
    intro other member
    rcases List.mem_append.mp member with old | new
    · exact single.plain other old
    · rw [List.mem_singleton.mp new]
      exact plain

/-- Single handlers stay single. -/
theorem Single.grow (single : Single before) (grows : Grows before after) : Single after := by
  -- A handler is added only where there is none of its kind.
  cases grows with
  | kept => exact single
  | queue fresh => exact single.append (Or.inl rfl) (fun _ => fresh) nofun
  | stream fresh => exact single.append (Or.inr rfl) nofun fun _ => fresh

end Handler

namespace State

/-- Attaching a handler adds it where it is not there yet, and leaves the handlers of the other loggers as they are. -/
theorem grows_attach (state : State) (name other : LoggerName) {handler : Handler}
    (grows : handler ∉ (state.logger name).handlers →
      Handler.Grows (state.logger name).handlers ((state.logger name).handlers ++ [handler])) :
    Handler.Grows (state.logger other).handlers ((state.attach name handler).logger other).handlers := by
  -- Only the logger itself can change, and only where the handler is missing.
  by_cases here : other = name
  · subst here
    by_cases there : handler ∈ (state.logger other).handlers
    · rw [handlers_attach_of_mem _ there]
      exact .kept
    · rw [handlers_attach_of_notMem _ there]
      exact grows there
  · rw [logger_attach_of_ne _ _ here]
    exact .kept

/-- A setup adds one handler at most. -/
theorem grows_setup (state : State) (setup : Setup) (other : LoggerName) :
    Handler.Grows (state.logger other).handlers ((state.setup setup).state.logger other).handlers := by
  have ends := state.setsUp_setup setup
  generalize state.setup setup = step at ends ⊢
  -- Up to the last step nothing happens to handlers, and that step is about one logger.
  cases ends with
  | unnamed => exact .kept
  | orphaned | unleveled =>
    rw [quiet, (settings_use state _ other).1]
    exact .kept
  | unformatted | present =>
    rw [quiet, handlers_leveled]
    exact .kept
  | @queue name rank =>
    rw [quiet, ← handlers_leveled state name other rank]
    exact grows_attach _ name other .queue
  | @stream name rank format _ _ _ _ fresh =>
    rw [quiet, ← handlers_leveled state name other rank]
    rw [← handlers_leveled state name name rank] at fresh
    exact grows_attach _ name other fun _ => .stream fresh

/-- A note leaves the handlers of all loggers as they were, at a level that takes no part of a logger. -/
theorem handlers_log (state : State) (name : LoggerName) {note : Note} (moment : Moment)
    (levelled : ∀ verb, Verb.ofLevel note.level = .ok verb → verb.takesPart = false) (other : LoggerName) :
    ((state.log name note moment).state.logger other).handlers = (state.logger other).handlers := by
  have logs := state.logs_log name note moment
  generalize state.log name note moment = step at logs ⊢
  rw [← (settings_use state name other).1]
  -- All that happens to the loggers is that names come into use.
  cases logs with
  | refused => rfl
  | performed level =>
    rcases (state.use name).state.registry_perform name _ moment (levelled _ level) with kept | ⟨child, used⟩
    · rw [logger, kept]
      rfl
    · rw [logger, used]
      exact (settings_use (state.use name).state child other).1

/-- A drain leaves the handlers of all loggers as they were: the file is attached for that time only. -/
theorem handlers_drain (state : State) (format : Value) (other : LoggerName) :
    ((state.drain format).state.logger other).handlers = (state.logger other).handlers := by
  -- A drain changes loggers only when it gets as far as the listener, and then it sets a level.
  cases accepted : Format.ofValue format with
  | error failure =>
    rw [drain_of_rejected accepted]
    rfl
  | ok shown =>
    cases taken : (state.registry.use listener).2 with
    | error failure =>
      rw [drain_of_orphaned accepted taken]
      exact (settings_use state.mark listener other).1
    | ok =>
      rw [drain_of_listening accepted taken]
      exact (own_listening state other).1

/-- Every action adds one handler at most, at a level that takes no part of a logger. -/
theorem grows_act (state : State) {action : Action} (levelled : action.Levelled) (other : LoggerName) :
    Handler.Grows (state.logger other).handlers ((state.act action).state.logger other).handlers := by
  -- Setups are all that attach handlers for good.
  cases action with
  | setup setup => exact state.grows_setup setup other
  | log value note moment =>
    cases named : LoggerName.ofValue value with
    | error failure =>
      simp only [act, named]
      exact .kept
    | ok name =>
      simp only [act, named]
      rw [handlers_log state name moment levelled]
      exact .kept
  | mark => exact .kept
  | drain format =>
    rw [act, state.handlers_drain]
    exact .kept

end State

namespace Ledger

/-- A run leaves single handlers at every logger. -/
theorem single_run {actions : List Action} (levelled : ∀ action ∈ actions, action.Levelled) (name : LoggerName) :
    Handler.Single ((run actions).state.logger name).handlers := by
  -- At the start there are no handlers, and each action lets them grow at most.
  have start : Handler.Single (initial.state.logger name).handlers :=
    ⟨Nat.zero_le _, Nat.zero_le _, List.forall_mem_nil _⟩
  exact invariant_run (fun ledger => Handler.Single (ledger.state.logger name).handlers) start
    (fun ledger _ allowed single => single.grow (ledger.state.grows_act allowed name)) levelled

/--
Handlers are never attached twice.

After every run each logger has the queue once at most, a stream once at most, and no other handler. A setup that ends
well leaves its logger with the level and with a handler of the kind that were asked for. One that fails adds no handler
anywhere, and it changes no level when that is what is refused. Every action keeps the handlers that are there in front
of what it adds.
-/
theorem handlers_attached_once (actions : List Action) (levelled : ∀ action ∈ actions, action.Levelled) :
    (∀ name, Handler.Single ((run actions).state.logger name).handlers) ∧
    (∀ setup name, ((run actions).state.setup setup).result = .ok name →
      LoggerName.ofValue setup.name = .ok name ∧
        setup.Met (((run actions).state.setup setup).state.logger name)) ∧
    (∀ setup failure, ((run actions).state.setup setup).result = .error failure → ∀ name,
      (((run actions).state.setup setup).state.logger name).handlers =
          ((run actions).state.logger name).handlers ∧
        ((∀ rank, levelOfValue setup.level ≠ .ok rank) →
          (((run actions).state.setup setup).state.logger name).level =
            ((run actions).state.logger name).level)) ∧
    ∀ action : Action, action.Levelled → ∀ name,
      ((run actions).state.logger name).handlers <+:
        (((run actions).state.act action).state.logger name).handlers :=
  -- Each part is a fact about one step; only the first one is about the whole run.
  ⟨single_run levelled, fun _ _ done => State.met_setup done,
    fun _ _ failed name => State.settings_setup_of_failed failed name,
    fun _ allowed name => ((run actions).state.grows_act allowed name).isPrefix⟩

/-- A setup of a logger that writes its records to the stream. -/
def streamSetup (name : String) : State.Setup :=
  ⟨false, .text name, .text "debug", .text Format.standard.text⟩

/-- A stream comes behind the queue, and a second one does not come at all. -/
theorem handlers_attached_once_behind_queue :
    (∀ action ∈ [queueSetup "w", .setup (streamSetup "w")], action.Levelled) ∧
      (streamSetup "w").Met (((run [queueSetup "w", .setup (streamSetup "w")]).state.setup
        (streamSetup "w")).state.logger (.named "w")) ∧
      [.queue, .stream Format.standard] <+: (((run [queueSetup "w", .setup (streamSetup "w")]).state.act
        (.setup (streamSetup "w"))).state.logger (.named "w")).handlers ∧
      ((run [queueSetup "w", .setup (streamSetup "w"), .setup (streamSetup "w")]).state.logger
        (.named "w")).handlers.countP Handler.isStream ≤ 1 := by
  -- A row of setups is levelled whatever they ask for.
  have setups : ∀ setups : List State.Setup, ∀ action ∈ setups.map Action.setup, action.Levelled := by
    intro setups action member
    obtain ⟨setup, _, rfl⟩ := List.mem_map.mp member
    trivial
  have twice : ∀ action ∈ [queueSetup "w", .setup (streamSetup "w")], action.Levelled := setups [_, _]
  have thrice : ∀ action ∈ [queueSetup "w", .setup (streamSetup "w"), .setup (streamSetup "w")],
      action.Levelled := setups [_, _, _]
  -- Two setups show what a third one keeps and meets, and three that it adds no second stream.
  obtain ⟨_, ends, _, keeps⟩ := handlers_attached_once [queueSetup "w", .setup (streamSetup "w")] twice
  obtain ⟨single, _⟩ :=
    handlers_attached_once [queueSetup "w", .setup (streamSetup "w"), .setup (streamSetup "w")] thrice
  exact ⟨twice, (ends (streamSetup "w") (.named "w") rfl).2, keeps (.setup (streamSetup "w")) trivial (.named "w"),
    (single (.named "w")).stream⟩

end Ledger

end ProofWire.Log
