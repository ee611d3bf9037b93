import BuildSteps.Dispatcher
import BuildSteps.Proofs.Turn.Account

/-!
# Dispatches in closed form

A dispatch looks its steps up and runs them, so it is determined by the turns of these steps: its
exit status is that of the first turn that fails, and its trace, apart from the log records of lost
telemetry, is that of the reached turns between the records of the look-up and the record of the
failure. A name that is not in the table has no steps and hence no turns.
-/

namespace BuildSteps

namespace Turn

/-- The exit status of turns: that of the first one that fails, or zero. -/
def verdict (turns : List Turn) : Except Failure Int :=
  match firstFailing? turns with
  | none => .ok 0
  | some turn => turn.attempt.outcome.status.mapError .passed

/-- What is logged at the end of the turns of a name. -/
def closing (name : Option String) (turns : List Turn) : List Observation :=
  match outcome turns with
  | .ok _ => []
  | .error failure =>
    if failure.exitCode?.isSome then [.logged (.stopped name failure)] else []

theorem verdict_of_status {turns : List Turn} {turn : Turn} {status : Int}
    (found : firstFailing? turns = some turn)
    (ended : turn.attempt.outcome.status = .ok status) : verdict turns = .ok status := by
  simp only [verdict, found, ended]
  rfl

theorem verdict_of_fault {turns : List Turn} {turn : Turn} {fault : Fault}
    (found : firstFailing? turns = some turn)
    (ended : turn.attempt.outcome.status = .error fault) :
    verdict turns = .error (.passed fault) := by
  simp only [verdict, found, ended]
  rfl

/-- Turns that all succeed come to the status 0. -/
theorem verdict_of_outcome_ok {turns : List Turn} (ok : outcome turns = .ok ()) :
    verdict turns = .ok 0 := by
  cases found : firstFailing? turns with
  | none => simp only [verdict, found]
  | some turn =>
      simp only [outcome, found] at ok
      rcases exists_failure_of_fails (fails_of_firstFailing? found) with ⟨failure, raised⟩
      simp [ok] at raised

/-- A failure comes to its exit code, or passes if it has none. -/
theorem verdict_of_outcome_error {turns : List Turn} {failure : Failure}
    (raised : outcome turns = .error failure) :
    verdict turns = match failure.exitCode? with
      | some exitCode => .ok exitCode
      | none => .error failure := by
  cases found : firstFailing? turns with
  | none => simp [outcome, found] at raised
  | some turn =>
      have fails := fails_of_firstFailing? found
      simp only [outcome, found] at raised
      cases ended : turn.attempt.outcome.status with
      | ok status =>
          rcases result_of_status fails ended with ⟨other, same, -, exitCode⟩
          rw [raised, Except.error.injEq] at same
          subst same
          rw [verdict_of_status found ended, exitCode]
      | error fault =>
          rw [result_of_fault ended, Except.error.injEq] at raised
          subst raised
          exact verdict_of_fault found ended

end Turn

namespace Dispatcher

variable {State : Type} {sink : Sink State} {dispatcher : Dispatcher} {name : Option String}
  {steps : List Invocation} {records : List LogRecord}

theorem stepsFor_of_listed (listed : dispatcher.table.steps? name = some steps) :
    dispatcher.stepsFor name = (.ok steps, []) := by
  simp only [stepsFor, listed]

theorem dispatch_of_resolved (resolved : dispatcher.stepsFor name = (.ok steps, records))
    (session : Session State) :
    dispatcher.dispatch sink name session =
      ⟨(conclude name (Runner.runSteps sink steps session)).result,
        records.map .logged ++ (conclude name (Runner.runSteps sink steps session)).trace,
        (conclude name (Runner.runSteps sink steps session)).session⟩ := by
  simp only [dispatch, resolved]

theorem dispatch_of_refused {failure : Failure}
    (refused : dispatcher.stepsFor name = (.error failure, records)) (session : Session State) :
    dispatcher.dispatch sink name session = ⟨.error failure, records.map .logged, session⟩ := by
  simp only [dispatch, refused]

theorem session_conclude (name : Option String) (ran : Effect State Unit) :
    (conclude name ran).session = ran.session := by
  simp only [conclude]
  split
  · rfl
  · split <;> rfl

/-- The result of a dispatch is the verdict on the scheduled turns. -/
theorem result_dispatch (tolerated : sink.Tolerated)
    (resolved : dispatcher.stepsFor name = (.ok steps, records)) (session : Session State) :
    (dispatcher.dispatch sink name session).result =
      Turn.verdict (Turn.schedule steps session.attempts) := by
  rw [dispatch_of_resolved resolved]
  have outcome := Runner.result_runFrom tolerated 1 steps session
  rw [← Runner.runSteps] at outcome
  cases ran : (Runner.runSteps sink steps session).result with
  | ok done =>
      rw [ran] at outcome
      rw [Turn.verdict_of_outcome_ok outcome.symm]
      simp only [conclude, ran]
  | error failure =>
      rw [ran] at outcome
      rw [Turn.verdict_of_outcome_error outcome.symm]
      simp only [conclude, ran]
      cases failure.exitCode? <;> rfl

/-- Lost telemetry apart, a dispatch is observed as its records, the reached turns and what closes
them. -/
theorem withoutLosses_dispatch (tolerated : sink.Tolerated)
    (resolved : dispatcher.stepsFor name = (.ok steps, records)) (session : Session State) :
    let turns := Turn.schedule steps session.attempts
    Observation.withoutLosses (dispatcher.dispatch sink name session).trace =
      Observation.withoutLosses (records.map .logged) ++
        (Turn.traceFrom 1 (Turn.reached turns) ++ Turn.closing name turns) := by
  rw [dispatch_of_resolved resolved, Observation.withoutLosses_append]
  have outcome := Runner.result_runFrom tolerated 1 steps session
  have observed := Runner.withoutLosses_runFrom tolerated 1 steps session
  rw [← Runner.runSteps] at outcome observed
  dsimp only
  rw [← observed]
  cases ran : (Runner.runSteps sink steps session).result with
  | ok done =>
      rw [ran] at outcome
      simp only [conclude, ran, Turn.closing, ← outcome, List.append_nil]
  | error failure =>
      rw [ran] at outcome
      simp only [conclude, ran, Turn.closing, ← outcome]
      cases failure.exitCode? with
      | some exitCode =>
          simp only [Observation.withoutLosses_append, Option.isSome_some, if_true]
          rfl
      | none => simp

/-- A dispatch uses up one attempt for each turn reached, and leaves the last of their commands.
-/
theorem session_dispatch (tolerated : sink.Tolerated)
    (resolved : dispatcher.stepsFor name = (.ok steps, records)) (session : Session State) :
    let reached := Turn.reached (Turn.schedule steps session.attempts)
    ∃ store, (dispatcher.dispatch sink name session).session =
      { attempts := session.attempts.drop reached.length
        lastCommand := Turn.lastCommand reached session.lastCommand
        store := store } := by
  rw [dispatch_of_resolved resolved, session_conclude]
  exact Runner.session_runFrom tolerated 1 steps session

end Dispatcher

end BuildSteps
