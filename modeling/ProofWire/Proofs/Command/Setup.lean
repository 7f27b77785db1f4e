import ProofWire.Proofs.Command.Console
import ProofWire.Proofs.Command.Session
import ProofWire.Proofs.Log.Format
import ProofWire.Proofs.Settings.Flaw

/-! Setups: sessions that are ready to report, and settings that are refused in one line or have a flaw. -/

namespace ProofWire

namespace Command

namespace Session

variable {host : Host} {component : String} {check : Settings → Except Failure Unit}
  {further : Settings → Failure → Prop} {session : Session} {console : Console} {failure : Failure}

/-- The setup that settings ask for takes its values from them. -/
theorem setupOf_eq_ok_iff {settings : Settings} {setup : Log.State.Setup} :
    setupOf settings = .ok setup ↔ settings.loggerName = .ok setup.name ∧
      settings.loggerLevel = .ok setup.level ∧ settings.loggerFormat = .ok setup.format ∧
      setup.usesQueue = false := by
  -- The three entries are looked up in order, and commands never ask for the queue.
  simp only [setupOf, bind_eq_ok_iff, pure, Except.pure, Except.ok.injEq]
  constructor
  · intro ⟨_, name, _, level, _, format, same⟩
    subst same
    exact ⟨name, level, format, rfl⟩
  · intro ⟨name, level, format, stream⟩
    exact ⟨_, name, _, level, _, format, by rw [← stream]⟩

/-- What a plan consists of. -/
theorem plan_eq_ok_iff {settings : Settings} {setup : Log.State.Setup} :
    plan host check = .ok (settings, setup) ↔
      host.settings = .ok settings ∧ check settings = .ok () ∧ setupOf settings = .ok setup := by
  -- The settings are loaded, checked and asked for a setup, in this order.
  simp only [plan, bind_eq_ok_iff, pure, Except.pure, Except.ok.injEq, Prod.mk.injEq]
  constructor
  · intro ⟨_, loaded, _, checked, _, asked, same, kept⟩
    subst same kept
    exact ⟨loaded, checked, asked⟩
  · intro ⟨loaded, checked, asked⟩
    exact ⟨_, loaded, (), checked, _, asked, rfl, rfl⟩

/-- A session is ready when its logger writes to the stream as its settings ask, and nothing is noted so far. -/
structure Ready (host : Host) (session : Session) (rank : Nat) (format : Log.Format) : Prop where
  asked : ∃ setup, setupOf session.settings = .ok setup ∧ setup.Names session.logger rank format
  speaks : session.console.logging.Speaks session.logger rank format
  fresh : session.console = ⟨host.runtime, session.console.logging, [], 0⟩

/-- A session that starts is ready. -/
theorem ready_of_starts (starts : Starts host check session) :
    ∃ rank format, session.Ready host rank format := by
  -- The first setup of all makes a logger speak, and it writes nothing itself.
  obtain ⟨setup, planned, started⟩ := starts
  obtain ⟨_, _, asked⟩ := plan_eq_ok_iff.mp planned
  obtain ⟨_, _, _, stream⟩ := setupOf_eq_ok_iff.mp asked
  have console := congrArg Prod.fst started
  have result := congrArg Prod.snd started
  simp only [Console.setup, Console.initial] at console result
  rcases Log.State.setup_initial stream with ⟨name, rank, format, names, done, speaks⟩ | ⟨_, _, _, failed, _⟩
  · cases done.symm.trans result
    refine ⟨rank, format, ⟨setup, asked, names⟩, ?_, ?_⟩
    · rw [← console]
      exact speaks
    · rw [← console]
  · cases failed.symm.trans result

/-- A command that is blocked has no logger yet that takes records, and has noted nothing. -/
theorem silent_of_blocked (blocked : Blocked host check console failure) :
    ∃ logging name, logging.Silent name ∧ console = ⟨host.runtime, logging, [], 0⟩ := by
  cases blocked with
  | unplanned => exact ⟨_, _, Log.State.silent_initial, rfl⟩
  | halfway planned failed =>
    -- A setup that fails has at most taken a name into use and set a level.
    obtain ⟨_, _, asked⟩ := plan_eq_ok_iff.mp planned
    obtain ⟨_, _, _, stream⟩ := setupOf_eq_ok_iff.mp asked
    have left := congrArg Prod.fst failed
    have result := congrArg Prod.snd failed
    simp only [Console.setup, Console.initial] at left result
    rw [← left]
    rcases Log.State.setup_initial stream with ⟨_, _, _, _, done, _⟩ | ⟨_, after, _, _, silent⟩
    · cases done.symm.trans result
    · exact ⟨_, after, silent, rfl⟩

/-- The line that tells at some time why settings are refused. -/
def refusalLine (time component message : String) : String :=
  "[[" ++ time ++ "] [" ++ component ++ "] [main]]: invalid configuration: " ++ message ++ "\n"

/-- The logger of the standard setup writes that line. -/
theorem errorText_standard (runtime : Runtime) (moment : Log.Moment) (component message : String) :
    Console.errorText runtime (.named Log.Registry.encoderName) Log.Severity.info.rank Log.Format.standard moment
      component ("invalid configuration: " ++ message) = refusalLine moment.time component message := by
  -- Errors reach the rank of the standard level, and the standard format shows every record.
  have filled : ("invalid configuration: " ++ message).isEmpty = false := by
    simp
  have shown : Log.Format.standard.render? (Log.State.recordOf (.named Log.Registry.encoderName) .error
      (Event.text ⟨component, "main", "invalid configuration: " ++ message⟩) moment) = some _ :=
    Log.Format.render?_standard rfl
  rw [Console.errorText, if_pos (by decide), Console.textsOf, List.flatMap_singleton, Log.Handler.notices_of_shown shown]
  refine String.toList_inj.mp ?_
  simp [Log.State.recordOf, Log.Record.made, Event.text, filled, refusalLine, toString]

/-- Settings that are refused are told in one line. -/
theorem refuse_of_rejection (blocked : Blocked host check console failure)
    (rejected : failure.isRejection = true) :
    refuse console component failure =
      .ok ⟨1, "", refusalLine (host.runtime.clock 0).time component failure.message⟩ := by
  -- The standard setup succeeds whatever the refused one has left.
  obtain ⟨logging, name, silent, rfl⟩ := silent_of_blocked blocked
  obtain ⟨done, speaks⟩ := silent.setup_standard
  rw [refuse, if_pos rejected]
  simp only [Console.setup, done, Bind.bind, Except.bind]
  rw [Console.fail_eq speaks, errorText_standard]
  rfl

/-- Settings with the standing entries ask for a setup. -/
theorem exists_setupOf {settings : Settings} (standing : settings.config.Standing) :
    ∃ setup, setupOf settings = .ok setup := by
  -- The three entries for the logger are among those.
  obtain ⟨name, named⟩ : ∃ value, settings.loggerName = .ok value := Settings.exists_entry standing (by decide)
  obtain ⟨level, leveled⟩ : ∃ value, settings.loggerLevel = .ok value := Settings.exists_entry standing (by decide)
  obtain ⟨format, formatted⟩ : ∃ value, settings.loggerFormat = .ok value := Settings.exists_entry standing (by decide)
  exact ⟨⟨false, name, level, format⟩, setupOf_eq_ok_iff.mpr ⟨named, leveled, formatted, rfl⟩⟩

/-- Settings that a command does not plan with are refused or have a flaw. -/
theorem flaw_of_plan (unplanned : plan host check = .error failure)
    (checks : ∀ settings failure, settings.config.Standing → check settings = .error failure →
      failure.isRejection = true ∨ further settings failure) :
    failure.isRejection = true ∨ Settings.Flaw host.disk host.settingsDepth host.source further failure := by
  -- They are not loaded, or they do not pass the check; a setup is there to be asked for.
  rcases bind_eq_error_iff.mp unplanned with unloaded | ⟨settings, loaded, later⟩
  · exact Settings.flaw_of_load further unloaded
  · have standing := Settings.standing_of_load loaded
    rcases bind_eq_error_iff.mp later with unchecked | ⟨_, _, later⟩
    · exact (checks settings failure standing unchecked).imp_right fun flawed => .further loaded flawed
    · obtain ⟨setup, asked⟩ := exists_setupOf standing
      rw [asked] at later
      cases later

/-- What refuses the values of a setup is told, or one of them has a flaw. -/
theorem flaw_of_refuses {settings : Settings} {setup : Log.State.Setup} (loaded : host.settings = .ok settings)
    (asked : setupOf settings = .ok setup) (refuses : setup.Refuses failure) :
    failure.isRejection = true ∨ Settings.Flaw host.disk host.settingsDepth host.source further failure := by
  obtain ⟨name, level, format, _⟩ := setupOf_eq_ok_iff.mp asked
  -- Each value comes from its own entry of the settings.
  cases refuses with
  | name refused =>
    obtain ⟨rfl, present, single⟩ := Log.LoggerName.single_of_ofValue refused
    exact Or.inr (.name loaded name present single)
  | level refused =>
    refine (Log.level_cases refused).imp_right fun unfit => ?_
    rw [unfit.1]
    exact .level loaded level unfit.2
  | format refused =>
    refine (Log.Format.ofValue_cases refused).imp_right fun unfit => ?_
    rw [unfit.1]
    exact .format loaded format unfit.2.1 unfit.2.2

/-- A command is blocked by settings that are refused or that have a flaw. -/
theorem blocked_cases (blocked : Blocked host check console failure)
    (checks : ∀ settings failure, settings.config.Standing → check settings = .error failure →
      failure.isRejection = true ∨ further settings failure) :
    failure.isRejection = true ∨ Settings.Flaw host.disk host.settingsDepth host.source further failure := by
  cases blocked with
  | unplanned failed => exact flaw_of_plan failed checks
  | halfway planned failed =>
    obtain ⟨loaded, _, asked⟩ := plan_eq_ok_iff.mp planned
    obtain ⟨_, _, _, stream⟩ := setupOf_eq_ok_iff.mp asked
    have result := congrArg Prod.snd failed
    simp only [Console.setup, Console.initial] at result
    -- The setup is the first of all, so that only its own values can be to blame.
    rcases Log.State.setup_initial stream with ⟨_, _, _, _, done, _⟩ | ⟨_, _, refuses, refused, _⟩
    · cases done.symm.trans result
    · cases refused.symm.trans result
      exact flaw_of_refuses loaded asked refuses

end Session

end Command

end ProofWire
