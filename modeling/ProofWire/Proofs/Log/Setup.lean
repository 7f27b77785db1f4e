import ProofWire.Proofs.Log.Registry

/-! Setups: how they end, and what they change of the loggers. -/

namespace ProofWire.Log

namespace State

variable {state : State} {name other : LoggerName}

/-- Taking a name into use leaves the handlers and the level of every logger as they are. -/
theorem settings_use (state : State) (name other : LoggerName) :
    ((state.use name).state.logger other).handlers = (state.logger other).handlers ∧
      ((state.use name).state.logger other).level = (state.logger other).level :=
  -- Only what stands above a logger can change.
  have own := Registry.own_use state.registry name other
  ⟨(congrArg Logger.handlers own :), (congrArg Logger.level own :)⟩

/-- A change is made to one logger. -/
theorem logger_change_of_ne (state : State) (next : Logger → Logger) (apart : other ≠ name) :
    (state.change name next).logger other = state.logger other := by
  simp only [logger, change, Registry.logger_change, if_neg apart]

/-- The state in which a logger is in use and has a level. -/
def leveled (state : State) (name : LoggerName) (rank : Nat) : State :=
  (state.use name).state.setLevel name rank

/-- A logger that is given a level has it. -/
theorem level_leveled (state : State) (name : LoggerName) (rank : Nat) :
    ((state.leveled name rank).logger name).level = rank := by
  simp only [leveled, setLevel, logger, change, Registry.logger_change, if_true]

/-- A level is given to one logger. -/
theorem level_leveled_of_ne (state : State) (rank : Nat) (apart : other ≠ name) :
    ((state.leveled name rank).logger other).level = (state.logger other).level := by
  -- The name is taken into use first, which sets no level.
  rw [← (settings_use state name other).2]
  exact congrArg Logger.level
    (logger_change_of_ne (state.use name).state (fun logger => { logger with level := rank }) apart)

/-- Giving a level leaves all handlers as they are. -/
theorem handlers_leveled (state : State) (name other : LoggerName) (rank : Nat) :
    ((state.leveled name rank).logger other).handlers = (state.logger other).handlers := by
  -- A level is all that is set, wherever it is.
  rw [← (settings_use state name other).1]
  simp only [leveled, setLevel, logger, change, Registry.logger_change]
  split <;> rfl

/-- A handler that is there already is not attached once more. -/
theorem handlers_attach_of_mem (state : State) {handler : Handler} (there : handler ∈ (state.logger name).handlers) :
    ((state.attach name handler).logger name).handlers = (state.logger name).handlers := by
  have found : (state.registry.logger name).handlers.contains handler = true := List.contains_iff_mem.mpr there
  simp only [attach, logger, change, Registry.logger_change, if_true, found]

/-- A new handler is attached behind the others. -/
theorem handlers_attach_of_notMem (state : State) {handler : Handler}
    (fresh : handler ∉ (state.logger name).handlers) :
    ((state.attach name handler).logger name).handlers = (state.logger name).handlers ++ [handler] := by
  -- The test for a handler that is there already fails.
  have absent : ¬ (state.registry.logger name).handlers.contains handler = true :=
    fun found => fresh (List.contains_iff_mem.mp found)
  simp only [attach, logger, change, Registry.logger_change, if_true, if_neg absent]

/-- A handler is attached to one logger. -/
theorem logger_attach_of_ne (state : State) (handler : Handler) (apart : other ≠ name) :
    (state.attach name handler).logger other = state.logger other :=
  logger_change_of_ne state _ apart

/-- Attaching a handler leaves all levels as they are. -/
theorem level_attach (state : State) (name other : LoggerName) (handler : Handler) :
    ((state.attach name handler).logger other).level = (state.logger other).level := by
  -- Handlers are all that changes, if anything does.
  simp only [attach, logger, change, Registry.logger_change]
  split
  · split <;> rfl
  · rfl

/-- An attached handler is there. -/
theorem mem_handlers_attach (state : State) (name : LoggerName) (handler : Handler) :
    handler ∈ ((state.attach name handler).logger name).handlers := by
  -- It was there before, or it is the last one now.
  by_cases there : handler ∈ (state.logger name).handlers
  · rw [handlers_attach_of_mem state there]
    exact there
  · rw [handlers_attach_of_notMem state there]
    exact List.mem_append_right _ List.mem_cons_self

/--
How a setup ends: one of its values is refused or its logger cannot be taken into use, and what precedes that stays done;
or its logger has the level and the handler that are asked for.
-/
inductive SetsUp (state : State) (setup : Setup) : Step LoggerName → Prop where
  | unnamed {failure : Failure} (refused : LoggerName.ofValue setup.name = .error failure) :
    SetsUp state setup (state.quiet (.error failure))
  | orphaned {name : LoggerName} {failure : Failure} (named : LoggerName.ofValue setup.name = .ok name)
    (failed : (state.registry.use name).2 = .error failure) :
    SetsUp state setup ((state.use name).state.quiet (.error failure))
  | unleveled {name : LoggerName} {failure : Failure} (named : LoggerName.ofValue setup.name = .ok name)
    (taken : (state.registry.use name).2 = .ok ()) (refused : levelOfValue setup.level = .error failure) :
    SetsUp state setup ((state.use name).state.quiet (.error failure))
  | unformatted {name : LoggerName} {rank : Nat} {failure : Failure} (named : LoggerName.ofValue setup.name = .ok name)
    (taken : (state.registry.use name).2 = .ok ()) (ranked : levelOfValue setup.level = .ok rank)
    (stream : setup.usesQueue = false) (fresh : (state.logger name).handlers.any Handler.isStream = false)
    (refused : Format.ofValue setup.format = .error failure) :
    SetsUp state setup ((state.leveled name rank).quiet (.error failure))
  | queue {name : LoggerName} {rank : Nat} (named : LoggerName.ofValue setup.name = .ok name)
    (taken : (state.registry.use name).2 = .ok ()) (ranked : levelOfValue setup.level = .ok rank)
    (queue : setup.usesQueue = true) :
    SetsUp state setup (((state.leveled name rank).attach name .queue).quiet (.ok name))
  | present {name : LoggerName} {rank : Nat} (named : LoggerName.ofValue setup.name = .ok name)
    (taken : (state.registry.use name).2 = .ok ()) (ranked : levelOfValue setup.level = .ok rank)
    (stream : setup.usesQueue = false) (there : (state.logger name).handlers.any Handler.isStream = true) :
    SetsUp state setup ((state.leveled name rank).quiet (.ok name))
  | stream {name : LoggerName} {rank : Nat} {format : Format} (named : LoggerName.ofValue setup.name = .ok name)
    (taken : (state.registry.use name).2 = .ok ()) (ranked : levelOfValue setup.level = .ok rank)
    (stream : setup.usesQueue = false) (fresh : (state.logger name).handlers.any Handler.isStream = false)
    (accepted : Format.ofValue setup.format = .ok format) :
    SetsUp state setup (((state.leveled name rank).attach name (.stream format)).quiet (.ok name))

/-- Every setup ends in one of these ways. -/
theorem setsUp_setup (state : State) (setup : Setup) : state.SetsUp setup (state.setup setup) := by
  -- The values are looked at in the order in which they stand: name, level, format.
  cases named : LoggerName.ofValue setup.name with
  | error failure =>
    simp only [State.setup, named]
    exact .unnamed named
  | ok name =>
    cases taken : (state.registry.use name).2 with
    | error failure =>
      simp only [State.setup, named, use, quiet, taken]
      exact .orphaned named taken
    | ok =>
      cases ranked : levelOfValue setup.level with
      | error failure =>
        simp only [State.setup, named, use, quiet, taken, ranked]
        exact .unleveled named taken ranked
      | ok rank =>
        have rest : state.setup setup = (state.leveled name rank).attachOnce name setup := by
          simp only [State.setup, named, use, quiet, taken, ranked, leveled]
        rw [rest, attachOnce]
        cases queue : setup.usesQueue with
        | true => exact .queue named taken ranked queue
        | false =>
          rw [if_neg (by decide), handlers_leveled]
          cases there : (state.logger name).handlers.any Handler.isStream with
          | true => exact .present named taken ranked queue there
          | false =>
            rw [if_neg (by decide)]
            cases accepted : Format.ofValue setup.format with
            | error failure => exact .unformatted named taken ranked queue there accepted
            | ok format => exact .stream named taken ranked queue there accepted

/-- A logger meets a setup when it has its level and a handler of the kind that is asked for. -/
structure Setup.Met (setup : Setup) (logger : Logger) : Prop where
  level : levelOfValue setup.level = .ok logger.level
  queue : setup.usesQueue = true → .queue ∈ logger.handlers
  stream : setup.usesQueue = false → logger.handlers.any Handler.isStream = true

/-- A setup that ends well is met by its logger. -/
theorem met_setup {setup : Setup} (done : (state.setup setup).result = .ok name) :
    LoggerName.ofValue setup.name = .ok name ∧ setup.Met ((state.setup setup).state.logger name) := by
  have ends := state.setsUp_setup setup
  generalize state.setup setup = step at ends done ⊢
  cases ends with
  | unnamed | orphaned | unleveled | unformatted => cases done
  | queue named taken ranked queue =>
    cases done
    refine ⟨named, ?_, fun _ => mem_handlers_attach _ _ _, fun stream => ?_⟩
    · exact ranked.trans (congrArg _ ((level_attach _ _ _ _).trans (level_leveled _ _ _)).symm)
    · cases queue.symm.trans stream
  | present named taken ranked stream there =>
    cases done
    refine ⟨named, ranked.trans (congrArg _ (level_leveled _ _ _).symm), fun queue => ?_, fun _ => ?_⟩
    · cases stream.symm.trans queue
    · -- The handler that is there already is not touched.
      exact (congrArg (·.any Handler.isStream) (handlers_leveled _ _ _ _)).trans there
  | stream named taken ranked stream fresh accepted =>
    cases done
    refine ⟨named, ?_, fun queue => ?_, fun _ => ?_⟩
    · exact ranked.trans (congrArg _ ((level_attach _ _ _ _).trans (level_leveled _ _ _)).symm)
    · cases stream.symm.trans queue
    · exact List.any_eq_true.mpr ⟨_, mem_handlers_attach _ _ _, rfl⟩

/-- A setup that fails adds no handler, and one whose level is refused changes no level. -/
theorem settings_setup_of_failed {setup : Setup} {failure : Failure}
    (failed : (state.setup setup).result = .error failure) (other : LoggerName) :
    ((state.setup setup).state.logger other).handlers = (state.logger other).handlers ∧
      ((∀ rank, levelOfValue setup.level ≠ .ok rank) →
        ((state.setup setup).state.logger other).level = (state.logger other).level) := by
  -- All refusals come before the handler is attached, and those of the name and of the level before the level is set.
  have ends := state.setsUp_setup setup
  generalize state.setup setup = step at ends failed ⊢
  cases ends with
  | unnamed => exact ⟨rfl, fun _ => rfl⟩
  | orphaned | unleveled =>
    exact ⟨(settings_use state _ other).1, fun _ => (settings_use state _ other).2⟩
  | unformatted named taken ranked =>
    -- The level has been set by then, so it was not the one to blame.
    exact ⟨handlers_leveled _ _ _ _, fun unknown => absurd ranked (unknown _)⟩
  | queue | present | stream => cases failed

/-- A setup that ends well leaves all questions about severities open. -/
theorem decided_setup {setup : Setup} (done : (state.setup setup).result = .ok name) :
    (state.setup setup).state.decided = [] := by
  have ends := state.setsUp_setup setup
  generalize state.setup setup = step at ends done ⊢
  cases ends with
  | unnamed | orphaned | unleveled | unformatted => cases done
  -- Each of the others has set a level, and a handler decides nothing.
  | queue | present | stream => rfl

/-- A setup changes the level of its own logger only. -/
theorem level_setup_of_ne {setup : Setup} (named : LoggerName.ofValue setup.name = .ok name) (apart : other ≠ name) :
    ((state.setup setup).state.logger other).level = (state.logger other).level := by
  -- Each way to end has changed the level of the setup's own logger or of none.
  have ends := state.setsUp_setup setup
  generalize state.setup setup = step at ends ⊢
  cases ends with
  | unnamed => rfl
  | orphaned | unleveled => exact (settings_use state _ other).2
  | unformatted same | present same =>
    cases named.symm.trans same
    exact level_leveled_of_ne state _ apart
  | queue same | stream same =>
    cases named.symm.trans same
    exact (level_attach _ _ _ _).trans (level_leveled_of_ne state _ apart)

end State

end ProofWire.Log
