import ProofWire.Command.Console
import ProofWire.Proofs.Outcome

/-! Sessions: a command is set up by its settings, or it is blocked before it reads its files. -/

namespace ProofWire

namespace Command

/-- A session starts from settings that can be read, pass the check of the command and set up a logger. -/
def Session.Starts (host : Host) (check : Settings → Except Failure Unit)
    (session : Session) : Prop :=
  ∃ setup, Session.plan host check = .ok (session.settings, setup) ∧
    (Console.initial host.runtime).setup setup = (session.console, .ok session.logger)

/-- A command is blocked by settings that ask for nothing sensible, or by a setup that fails on the way. -/
inductive Session.Blocked (host : Host) (check : Settings → Except Failure Unit) :
    Console → Failure → Prop where
  | unplanned {failure : Failure} (failed : Session.plan host check = .error failure) :
    Blocked host check (Console.initial host.runtime) failure
  | halfway {settings : Settings} {setup : Log.State.Setup} {console : Console} {failure : Failure}
    (planned : Session.plan host check = .ok (settings, setup))
    (failed : (Console.initial host.runtime).setup setup = (console, .error failure)) :
    Blocked host check console failure

namespace Session

variable {host : Host} {component : String} {check : Settings → Except Failure Unit}
  {body : Session → Except Failure Outcome}

/-- A session that starts runs the body of its command. -/
theorem run_of_starts {session : Session} (starts : Starts host check session) :
    run host component check body = body session := by
  obtain ⟨setup, planned, started⟩ := starts
  simp only [run, planned, started]

/-- Either a session starts and runs the body of the command, or the command is blocked and refuses its settings. -/
theorem run_cases (host : Host) (component : String) (check : Settings → Except Failure Unit)
    (body : Session → Except Failure Outcome) :
    (∃ session, Starts host check session ∧ run host component check body = body session) ∨
      ∃ console failure, Blocked host check console failure ∧
        run host component check body = refuse console component failure := by
  -- The plan comes first, then the setup, and each of the two may fail.
  cases planned : plan host check with
  | error failure => exact Or.inr ⟨_, failure, .unplanned planned, by simp only [run, planned]⟩
  | ok found =>
    obtain ⟨settings, setup⟩ := found
    cases started : (Console.initial host.runtime).setup setup with
    | mk console result =>
      cases result with
      | ok name =>
        exact Or.inl ⟨⟨console, name, settings⟩, ⟨setup, planned, started⟩,
          by simp only [run, planned, started]⟩
      | error failure =>
        exact Or.inr ⟨console, failure, .halfway planned started, by simp only [run, planned, started]⟩

/-- A command that refuses its settings does not tell success. -/
theorem status_of_refuse {console : Console} {failure : Failure} {outcome : Outcome}
    (ended : refuse console component failure = .ok outcome) : outcome.status = 1 := by
  -- A refusal that is reported leaves status one, and one that is not leaves no outcome.
  unfold refuse at ended
  split at ended
  · obtain ⟨name, _, reported⟩ := bind_eq_ok_iff.mp ended
    cases reported
    rfl
  · cases ended

/-- A command tells success only in a session that starts. -/
theorem exists_starts_of_success {outcome : Outcome}
    (done : run host component check body = .ok outcome) (success : outcome.status = 0) :
    ∃ session, Starts host check session ∧ body session = .ok outcome := by
  -- A command that is blocked does not tell success.
  rcases run_cases host component check body with ⟨session, starts, ran⟩ | ⟨console, failure, _, ran⟩
  · exact ⟨session, starts, ran.symm.trans done⟩
  · have failed := status_of_refuse (ran.symm.trans done)
    omega

end Session

end Command

end ProofWire
