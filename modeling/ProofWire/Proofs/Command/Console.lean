import ProofWire.Command.Console
import ProofWire.Proofs.Log.Setup
import ProofWire.Proofs.Log.Stream
import ProofWire.Proofs.Outcome

/-! Consoles: the logger of a command writes its errors to one stream, whatever the encoders report before. -/

namespace ProofWire

namespace Log

namespace Registry

/-- The name of the logger of the encoders. -/
def encoderName : String := "Encoder Logger"

/-- At most two names are in use, the given one and that of the encoders, and nothing but the latter comes between. -/
structure Tidy (registry : Registry) (name : LoggerName) : Prop where
  titles : ∀ other, (registry.logger other).title = other.text
  top : (registry.logger .root).parent = none
  named : ∀ text, name = .named text → registry.known.contains text = true
  encoder : registry.known.contains encoderName = true →
    (registry.logger (.named encoderName)).parent = some .root
  parent : name ≠ .root → (registry.logger name).parent = some .root ∨
    (registry.known.contains encoderName = true ∧ name ≠ .named encoderName ∧
      (registry.logger name).parent = some (.named encoderName))
  waits : registry.known.contains encoderName = false →
    ∀ below ∈ registry.waiting encoderName, .named below = name

/-- At the start the root is alone. -/
theorem tidy_initial : initial.Tidy .root where
  -- No name is in use, and nothing waits.
  titles _ := rfl
  top := rfl
  named _ same := by cases same
  encoder known := by cases known
  parent other := absurd rfl other
  waits _ _ waits := by cases waits

/-- The first name is taken into use below the root. -/
theorem tidy_use_initial (name : LoggerName) : (initial.use name).2 = .ok () ∧ (initial.use name).1.Tidy name := by
  have taken : (initial.use name).2 = .ok () := use_ok _ fun _ _ _ waits => by cases waits
  have below : ∀ text, name = .named text → ((initial.use name).1.logger name).parent = some .root := by
    intro text same
    subst same
    exact parent_use _ rfl (fun _ _ => rfl) taken
  refine ⟨taken, ⟨?_, ?_, ?_, ?_, ?_, ?_⟩⟩
  · intro other
    exact congrArg Logger.title (own_use initial name other)
  · rw [logger_use_root]
    rfl
  · intro text same
    subst same
    exact contains_known_use initial text
  · -- The encoders have a logger already only where this is the one.
    intro known
    rcases initial.known_use name with same | ⟨text, named, added⟩
    · rw [same] at known
      cases known
    · rw [added] at known
      have same : encoderName = text := by simpa [initial] using known
      rw [same, ← named]
      exact below text named
  · intro other
    cases name with
    | root => exact absurd rfl other
    | named text => exact Or.inl (below text rfl)
  · intro _ text waits
    rcases waiting_use initial waits with before | ⟨same, _⟩
    · cases before
    · exact same.symm

/-- A tidy registry stays tidy when the encoders take their logger into use, which they can. -/
theorem Tidy.use_encoder {registry : Registry} {name : LoggerName} (tidy : registry.Tidy name) :
    (registry.use (.named encoderName)).2 = .ok () ∧ (registry.use (.named encoderName)).1.Tidy name := by
  cases used : registry.known.contains encoderName with
  | true =>
    rw [use, if_pos used]
    exact ⟨rfl, tidy⟩
  | false =>
    -- A logger that waits for this one is the given one, which stands below the root.
    have placed : name ≠ .root → (registry.logger name).parent = some .root := by
      intro other
      rcases tidy.parent other with root | ⟨known, _⟩
      · exact root
      · cases used.symm.trans known
    have taken : (registry.use (.named encoderName)).2 = .ok () := by
      refine use_ok registry fun text same below waits => ?_
      cases same
      have named := tidy.waits used below waits
      rw [named, placed (by rw [← named]; exact LoggerName.noConfusion)]
      rfl
    have encoder := parent_use registry used (fun _ member => by cases member) taken
    refine ⟨taken, ⟨?_, ?_, ?_, fun _ => encoder, ?_, ?_⟩⟩
    · intro other
      exact (congrArg Logger.title (own_use registry _ other)).trans (tidy.titles other)
    · rw [logger_use_root, tidy.top]
    · intro text same
      exact contains_known_use_of_contains registry _ (tidy.named text same)
    · intro other
      have apart : name ≠ .named encoderName := by
        intro same
        cases used.symm.trans (tidy.named _ same)
      rcases parent_use_of_ne registry apart with kept | given
      · exact Or.inl (kept.trans (placed other))
      · exact Or.inr ⟨contains_known_use registry encoderName, apart, given⟩
    · intro absent
      cases absent.symm.trans (contains_known_use registry encoderName)

/-- Where the logger of the encoders is in use, it stands below the root itself. -/
theorem Tidy.of_encoder {registry : Registry} {name : LoggerName} (tidy : registry.Tidy name)
    (used : registry.known.contains encoderName = true) : registry.Tidy (.named encoderName) where
  -- What holds of the registry stays; only the logger in question is another one.
  titles := tidy.titles
  top := tidy.top
  named text same := by
    cases same
    exact used
  encoder := tidy.encoder
  parent _ := Or.inl (tidy.encoder used)
  waits absent := by cases absent.symm.trans used

/-- What is set for loggers does not matter to tidiness. -/
theorem Tidy.change {registry : Registry} {name : LoggerName} (tidy : registry.Tidy name) (changed : LoggerName)
    (next : Logger → Logger)
    (kept : ∀ logger, (next logger).title = logger.title ∧ (next logger).parent = logger.parent) :
    (registry.change changed next).Tidy name := by
  -- Titles and parents are all that the order of loggers is about.
  have titles := registry.change_keeps changed Logger.title (kept (registry.logger changed)).1
  have parents := registry.change_keeps changed Logger.parent (kept (registry.logger changed)).2
  exact ⟨fun other => (titles other).trans (tidy.titles other), (parents _).trans tidy.top, tidy.named,
    fun used => (parents _).trans (tidy.encoder used), fun other => by rw [parents]; exact tidy.parent other,
    tidy.waits⟩

/-- Above a logger of a tidy registry there are other loggers only. -/
theorem Tidy.lineage {registry : Registry} {name : LoggerName} (tidy : registry.Tidy name) :
    ∃ above, registry.lineage name = name :: above ∧ name ∉ above := by
  cases name with
  | root => exact ⟨[], lineage_of_none registry tidy.top, List.not_mem_nil⟩
  | named text =>
    have other : LoggerName.named text ≠ .root := LoggerName.noConfusion
    have used := tidy.named text rfl
    rcases tidy.parent other with root | ⟨known, apart, parent⟩
    · have some : registry.known ≠ [] := by
        intro none
        rw [none] at used
        cases used
      exact ⟨[.root], lineage_of_root registry tidy.top root some, by simp⟩
    · -- Two names are in use.
      have two : 2 ≤ registry.known.length := by
        have different : text ≠ encoderName := fun same => apart (congrArg LoggerName.named same)
        match found : registry.known with
        | [] => rw [found] at used; cases used
        | [only] =>
          simp only [found, List.contains_cons, List.contains_nil, Bool.or_false, beq_iff_eq] at used known
          exact absurd (used.trans known.symm) different
        | _ :: _ :: _ => simp
      exact ⟨[.named encoderName, .root],
        lineage_of_parent registry tidy.top parent (tidy.encoder known) two, by
          simp only [List.mem_cons, List.not_mem_nil, or_false, not_or]
          exact ⟨apart, other⟩⟩

/-- A logger of a tidy registry passes its records to its own handlers when the others have none. -/
theorem Tidy.handlers {registry : Registry} {name : LoggerName} (tidy : registry.Tidy name)
    (silent : ∀ other, other ≠ name → (registry.logger other).handlers = []) :
    registry.handlers name = (registry.logger name).handlers := by
  -- Every logger above is another one, and those have no handlers.
  obtain ⟨above, lineage, apart⟩ := tidy.lineage
  have nothing : above.flatMap (fun above => (registry.logger above).handlers) = [] := by
    refine List.flatMap_eq_nil_iff.mpr fun other member => silent other ?_
    intro same
    exact apart (same ▸ member)
  rw [Registry.handlers, lineage, List.flatMap_cons, nothing, List.append_nil]

/-- A bound on the level of a logger is one on the level that counts, if the others have none that exceeds it. -/
theorem Tidy.effectiveLevel_le_iff {registry : Registry} {name : LoggerName} (tidy : registry.Tidy name)
    (bound : Nat) (others : (registry.logger name).level = 0 →
      ∀ other, other ≠ name → (registry.logger other).level ≤ bound) :
    registry.effectiveLevel name ≤ bound ↔ (registry.logger name).level ≤ bound := by
  obtain ⟨above, lineage, apart⟩ := tidy.lineage
  by_cases zero : (registry.logger name).level = 0
  · -- The level that counts is that of another logger, or zero.
    have counted : registry.effectiveLevel name ≤ bound := by
      rw [effectiveLevel, lineage, List.map_cons, zero, List.find?_cons_of_neg (by decide)]
      cases found : (above.map fun above => (registry.logger above).level).find? (· != 0) with
      | none => exact Nat.zero_le _
      | some level =>
        obtain ⟨other, member, rfl⟩ := List.mem_map.mp (List.mem_of_find?_eq_some found)
        exact others zero other fun same => apart (same ▸ member)
    rw [zero]
    exact iff_of_true counted (Nat.zero_le _)
  · rw [effectiveLevel, lineage, List.map_cons, List.find?_cons_of_pos (by simpa using zero), Option.getD_some]

end Registry

namespace State

/-- A logger writes to a stream of a format from a rank on, and no other logger takes records. -/
structure Speaks (state : State) (name : LoggerName) (rank : Nat) (format : Format) : Prop where
  tidy : state.registry.Tidy name
  handlers : (state.logger name).handlers = [.stream format]
  level : (state.logger name).level = rank
  unfiltered : ∀ other, (state.logger other).filters = []
  silent : ∀ other, other ≠ name → (state.logger other).handlers = []
  quiet : rank = 0 → ∀ other, other ≠ name → (state.logger other).level ≤ Severity.error.rank
  undecided : state.decided.lookup (name, .error) = none

/-- Taking the logger of the encoders into use and answering a question about another severity change nothing. -/
theorem Speaks.transfer {state next : State} {name : LoggerName} {rank : Nat} {format : Format}
    (speaks : state.Speaks name rank format) (tidy : next.registry.Tidy name)
    (own : ∀ other, (next.logger other).own = (state.logger other).own)
    (undecided : next.decided.lookup (name, .error) = none) : next.Speaks name rank format where
  -- All that is set for the loggers is as before.
  tidy := tidy
  handlers := (congrArg Logger.handlers (own name)).trans speaks.handlers
  level := (congrArg Logger.level (own name)).trans speaks.level
  unfiltered other := (congrArg Logger.filters (own other)).trans (speaks.unfiltered other)
  silent other apart := (congrArg Logger.handlers (own other)).trans (speaks.silent other apart)
  quiet zero other apart := (congrArg Logger.level (own other)).trans_le (speaks.quiet zero other apart)
  undecided := undecided

/-- An encoder may note anything at the lowest level. -/
theorem Speaks.log_encoder {state : State} {name : LoggerName} {rank : Nat} {format : Format} {note : Note}
    {message : String} (speaks : state.Speaks name rank format) (moment : Moment)
    (level : Verb.ofLevel note.level = .ok (.report .debug false)) (text : note.text = .ok message) :
    (state.log (.named Registry.encoderName) note moment).state.Speaks name rank format := by
  obtain ⟨taken, tidy⟩ := speaks.tidy.use_encoder
  rw [log_eq_report moment taken level text]
  obtain ⟨registry, decided⟩ := report_frame
    ({ state with registry := (state.registry.use (.named Registry.encoderName)).1 } : State)
    (.named Registry.encoderName) .debug false message moment
  refine speaks.transfer (by rw [registry]; exact tidy) ?_ ?_
  · intro other
    rw [State.logger, registry]
    exact Registry.own_use state.registry _ other
  · rcases decided with same | ⟨answer, asked⟩
    · rw [same]
      exact speaks.undecided
    · -- The question was about another severity.
      have apart : ((name, Severity.error) == (LoggerName.named Registry.encoderName, Severity.debug)) = false := by
        simp
      rw [asked, List.lookup_cons, apart]
      exact speaks.undecided

/-- An error is written to the stream when the level of the logger admits it. -/
theorem Speaks.stream_log_error {state : State} {name : LoggerName} {rank : Nat} {format : Format} {note : Note}
    {message : String} (speaks : state.Speaks name rank format) (moment : Moment)
    (level : Verb.ofLevel note.level = .ok (.report .error false)) (text : note.text = .ok message) :
    (state.log name note moment).output.stream =
      if rank ≤ Severity.error.rank then Handler.notices format (recordOf name .error message moment) else [] := by
  have used : state.registry.use name = (state.registry, .ok ()) := by
    cases name with
    | root => rfl
    | named text => exact Registry.use_of_known _ (speaks.tidy.named text rfl)
  have heard : state.registry.effectiveLevel name ≤ Severity.error.rank ↔ rank ≤ Severity.error.rank := by
    have bound := speaks.tidy.effectiveLevel_le_iff Severity.error.rank fun zero =>
      speaks.quiet (speaks.level.symm.trans zero)
    rw [bound]
    exact iff_of_eq (congrArg (· ≤ Severity.error.rank) speaks.level)
  have streams : state.Streams name .error (Decidable.decide (rank ≤ Severity.error.rank)) format := by
    refine ⟨by rw [used], by rw [used]; exact decide_eq_decide.mpr heard, fun answer found => ?_,
      speaks.tidy.titles name, speaks.unfiltered name, fun _ => ?_⟩
    · -- The question has not been put so far.
      rw [speaks.undecided] at found
      cases found
    · rw [used]
      exact (speaks.tidy.handlers speaks.silent).trans speaks.handlers
  rw [(streams.log moment level text).2]
  simp only [decide_eq_true_eq]

/-- No logger takes records, and none has filters. -/
structure Silent (state : State) (name : LoggerName) : Prop where
  tidy : state.registry.Tidy name
  handlers : ∀ other, (state.logger other).handlers = []
  unfiltered : ∀ other, (state.logger other).filters = []

/-- At the start all loggers are silent. -/
theorem silent_initial : State.initial.Silent .root where
  -- No logger has anything yet.
  tidy := Registry.tidy_initial
  handlers _ := rfl
  unfiltered _ := rfl

/-- Loggers stay silent when a name is taken into use. -/
theorem Silent.use {state : State} {before name : LoggerName} (silent : state.Silent before)
    (used : (state.registry.use name).1.Tidy name) :
    ({ state with registry := (state.registry.use name).1 } : State).Silent name where
  -- Taking a name into use sets nothing.
  tidy := used
  handlers other := (congrArg Logger.handlers (Registry.own_use state.registry name other)).trans (silent.handlers other)
  unfiltered other :=
    (congrArg Logger.filters (Registry.own_use state.registry name other)).trans (silent.unfiltered other)

/-- Loggers stay silent when a level is set. -/
theorem Silent.setLevel {state : State} {name : LoggerName} (silent : state.Silent name) (rank : Nat) :
    (state.setLevel name rank).Silent name := by
  -- A level is neither a handler nor a filter.
  have loggers : ∀ other, (state.setLevel name rank).logger other =
      if other = name then { state.logger other with level := rank } else state.logger other := fun _ => rfl
  refine ⟨silent.tidy.change name (fun logger => { logger with level := rank }) fun _ => ⟨rfl, rfl⟩, ?_, ?_⟩
  · intro other
    rw [loggers]
    split <;> exact silent.handlers other
  · intro other
    rw [loggers]
    split <;> exact silent.unfiltered other

/-- A silent logger to which a stream is attached speaks through it. -/
theorem Silent.attach {state : State} {name : LoggerName} (silent : state.Silent name) (format : Format)
    (undecided : state.decided.lookup (name, .error) = none)
    (quiet : (state.logger name).level = 0 → ∀ other, other ≠ name →
      (state.logger other).level ≤ Severity.error.rank) :
    (state.attach name (.stream format)).Speaks name (state.logger name).level format := by
  have loggers : ∀ other, (state.attach name (.stream format)).logger other =
      if other = name then { state.logger other with handlers := [.stream format] } else state.logger other := by
    intro other
    by_cases here : other = name
    · have none : (state.registry.logger name).handlers = [] := silent.handlers name
      simp only [State.attach, State.change, State.logger, Registry.logger_change, here, if_true, none,
        List.contains_nil, List.nil_append]
      rfl
    · rw [logger_attach_of_ne state _ here, if_neg here]
  -- The new stream is the only handler there is, and it is at the logger in question.
  refine ⟨?_, ?_, ?_, ?_, ?_, ?_, undecided⟩
  · refine silent.tidy.change name (fun logger => if logger.handlers.contains (.stream format) then logger
      else { logger with handlers := logger.handlers ++ [.stream format] }) fun logger => ?_
    split <;> exact ⟨rfl, rfl⟩
  · rw [loggers, if_pos rfl]
  · rw [loggers, if_pos rfl]
  · intro other
    rw [loggers]
    split <;> exact silent.unfiltered other
  · intro other apart
    rw [loggers, if_neg apart]
    exact silent.handlers other
  · intro zero other apart
    rw [loggers, if_neg apart]
    exact quiet zero other apart

/-- The values of a setup name a logger, a level and a format. -/
structure Setup.Names (setup : Setup) (name : LoggerName) (rank : Nat) (format : Format) : Prop where
  name : LoggerName.ofValue setup.name = .ok name
  level : levelOfValue setup.level = .ok rank
  format : Format.ofValue setup.format = .ok format

/-- One of the values of a setup is refused. -/
inductive Setup.Refuses (setup : Setup) (failure : Failure) : Prop where
  | name (refused : LoggerName.ofValue setup.name = .error failure)
  | level (refused : levelOfValue setup.level = .error failure)
  | format (refused : Format.ofValue setup.format = .error failure)

/-- A setup on silent loggers makes its logger speak, or it fails for one of its values and leaves all silent. -/
theorem Silent.setup {state : State} {before : LoggerName} {setup : Setup} (silent : state.Silent before)
    (stream : setup.usesQueue = false)
    (tidy : ∀ name, LoggerName.ofValue setup.name = .ok name →
      (state.registry.use name).2 = .ok () ∧ (state.registry.use name).1.Tidy name)
    (quiet : levelOfValue setup.level = .ok 0 → ∀ other, (state.logger other).level ≤ Severity.error.rank) :
    (∃ name rank format, setup.Names name rank format ∧ (state.setup setup).result = .ok name ∧
      (state.setup setup).state.Speaks name rank format) ∨
    ∃ failure after, setup.Refuses failure ∧ (state.setup setup).result = .error failure ∧
      (state.setup setup).state.Silent after := by
  have leveled : ∀ {name : LoggerName}, LoggerName.ofValue setup.name = .ok name → ∀ rank,
      (state.leveled name rank).Silent name := fun named rank => (silent.use (tidy _ named).2).setLevel rank
  have ends := state.setsUp_setup setup
  generalize state.setup setup = step at ends ⊢
  cases ends with
  | unnamed refused => exact Or.inr ⟨_, before, .name refused, rfl, silent⟩
  | orphaned named failed => cases (tidy _ named).1.symm.trans failed
  | unleveled named taken refused =>
    exact Or.inr ⟨_, _, .level refused, rfl, silent.use (tidy _ named).2⟩
  | unformatted named taken ranked single fresh refused =>
    exact Or.inr ⟨_, _, .format refused, rfl, leveled named _⟩
  | queue named taken ranked queue => cases stream.symm.trans queue
  | present named taken ranked single there =>
    -- A silent logger has no stream yet.
    rw [silent.handlers] at there
    cases there
  | @stream name rank format named taken ranked single fresh accepted =>
    refine Or.inl ⟨name, rank, format, ⟨named, ranked, accepted⟩, rfl, ?_⟩
    have speaks := (leveled named rank).attach format rfl fun zero other apart => by
      rw [level_leveled_of_ne state rank apart]
      exact quiet (by rw [ranked, ← zero, level_leveled]) other
    rw [level_leveled] at speaks
    exact speaks

/-- The first setup makes its logger speak, or it fails for one of its values and leaves all silent. -/
theorem setup_initial {setup : Setup} (stream : setup.usesQueue = false) :
    (∃ name rank format, setup.Names name rank format ∧ (State.initial.setup setup).result = .ok name ∧
      (State.initial.setup setup).state.Speaks name rank format) ∨
    ∃ failure after, setup.Refuses failure ∧ (State.initial.setup setup).result = .error failure ∧
      (State.initial.setup setup).state.Silent after := by
  refine silent_initial.setup stream (fun name _ => Registry.tidy_use_initial name) fun _ other => ?_
  -- Of all loggers only the root has a level.
  show (if other = .root then Severity.warning.rank else 0) ≤ Severity.error.rank
  split <;> decide

/-- On silent loggers the standard setup makes the logger of the encoders speak. -/
theorem Silent.setup_standard {state : State} {before : LoggerName} (silent : state.Silent before) :
    (state.setup Setup.standard).result = .ok (.named Registry.encoderName) ∧
      (state.setup Setup.standard).state.Speaks (.named Registry.encoderName) Severity.info.rank Format.standard := by
  have name : LoggerName.ofValue Setup.standard.name = .ok (.named Registry.encoderName) := rfl
  have level : levelOfValue Setup.standard.level = .ok Severity.info.rank := rfl
  have format : Format.ofValue Setup.standard.format = .ok Format.standard := rfl
  have tidy : ∀ other, LoggerName.ofValue Setup.standard.name = .ok other →
      (state.registry.use other).2 = .ok () ∧ (state.registry.use other).1.Tidy other := by
    intro other named
    cases name.symm.trans named
    obtain ⟨taken, kept⟩ := silent.tidy.use_encoder
    exact ⟨taken, kept.of_encoder (Registry.contains_known_use _ _)⟩
  rcases silent.setup rfl tidy (fun zero => by cases level.symm.trans zero) with
    ⟨_, _, _, names, done, speaks⟩ | ⟨_, _, refuses, _⟩
  · cases name.symm.trans names.name
    cases level.symm.trans names.level
    cases format.symm.trans names.format
    exact ⟨done, speaks⟩
  · -- None of the standard values is refused.
    cases refuses with
    | name refused => cases name.symm.trans refused
    | level refused => cases level.symm.trans refused
    | format refused => cases format.symm.trans refused

end State

end Log

namespace Command.Console

open Log

variable {console : Console} {name : LoggerName} {rank : Nat} {format : Format}

/-- What encoders notice is reported for debugging. -/
theorem verb_debugLevel : Verb.ofLevel (.text debugLevel) = .ok (.report .debug false) :=
  rfl

/-- What ends a command is reported as an error. -/
theorem verb_errorLevel : Verb.ofLevel (.text errorLevel) = .ok (.report .error false) :=
  rfl

/-- What records leave on the error stream: a line each of the format, or a notice that there is none. -/
def textsOf (runtime : Runtime) (format : Format) (records : List Record) : List String :=
  records.flatMap fun record => (Handler.notices format record).map (Notice.text runtime.trace)

/-- Records are written one after another. -/
theorem textsOf_cons (runtime : Runtime) (format : Format) (record : Record) (rest : List Record) :
    textsOf runtime format (record :: rest) =
      (Handler.notices format record).map (Notice.text runtime.trace) ++ textsOf runtime format rest :=
  List.flatMap_cons

/-- What an error writes, if the level admits it. -/
def errorText (runtime : Runtime) (name : LoggerName) (rank : Nat) (format : Format) (moment : Moment)
    (component message : String) : String :=
  if rank ≤ Severity.error.rank then
    String.join (textsOf runtime format [State.recordOf name .error (Event.text ⟨component, "main", message⟩) moment])
  else ""

/-- An error ends a command after what was written before. -/
theorem fail_eq (speaks : console.logging.Speaks name rank format) (component message : String) :
    console.fail name component message =
      ⟨1, "", String.join console.written ++ errorText console.runtime name rank format
        (console.runtime.clock console.notes) component message⟩ := by
  -- The error is logged like any other note, and then the console is closed.
  have stream := speaks.stream_log_error (console.runtime.clock console.notes) verb_errorLevel
    (Event.text_note ⟨component, "main", message⟩ errorLevel)
  simp only [fail, close, log, stream, String.join_append, errorText, textsOf, List.flatMap_singleton]
  split <;> rfl

/-- Tracing events counts them, and the runtime stays the same. -/
theorem notes_trace (console : Console) (events : List Event) :
    (console.trace events).notes = console.notes + events.length ∧
      (console.trace events).runtime = console.runtime := by
  -- Each event is one note.
  induction events generalizing console with
  | nil => exact ⟨rfl, rfl⟩
  | cons event rest ih =>
    obtain ⟨notes, runtime⟩ := ih (console.log encoderLogger debugLevel event)
    refine ⟨notes.trans ?_, runtime⟩
    simp only [log, List.length_cons]
    omega

/-- The logger of a command goes on speaking while the encoders report. -/
theorem speaks_trace (speaks : console.logging.Speaks name rank format) (events : List Event) :
    (console.trace events).logging.Speaks name rank format := by
  -- Each event leaves the logger speaking for the next one.
  induction events generalizing console with
  | nil => exact speaks
  | cons event rest ih =>
    exact @ih (console.log encoderLogger debugLevel event)
      (speaks.log_encoder _ verb_debugLevel (event.text_note debugLevel))

end Command.Console

end ProofWire
