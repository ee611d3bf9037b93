import BuildSteps.Proofs.Dispatch.Account

/-!
# The status of a dispatch

This file shows that a dispatch starts exactly the right processes and reports exactly the right
status. It starts the commands of the reached turns, in order, and its result is decided by the
first turn that fails, as a shell would report the end of its process. The pipeline of steps
underneath raises a failure with that command and that status in exactly the cases where the status
of the dispatch is not zero.
-/

namespace BuildSteps

namespace Turn

theorem commands_trace (turn : Turn) :
    Observation.commands turn.trace = [turn.invocation.argv] := by
  simp only [trace, Observation.commands_append]
  cases Runner.handle turn.invocation turn.attempt <;> rfl

theorem commands_traceFrom (index : Nat) (turns : List Turn) :
    Observation.commands (traceFrom index turns) =
      turns.map fun turn => turn.invocation.argv := by
  induction turns generalizing index with
  | nil => rfl
  | cons turn rest ih =>
      rw [traceFrom_cons, Observation.commands_append, ih, List.map_cons]
      have first : Observation.commands (.logged (.step index turn.invocation) :: turn.trace) =
          [turn.invocation.argv] := commands_trace turn
      rw [first]
      rfl

theorem commands_closing (name : Option String) (turns : List Turn) :
    Observation.commands (closing name turns) = [] := by
  simp only [closing]
  split
  · rfl
  · split <;> rfl

/-- The status is 0 iff every scheduled process exits with 0. -/
theorem verdict_eq_zero_iff {turns : List Turn} :
    verdict turns = .ok 0 ↔ ∀ turn ∈ turns, turn.attempt.outcome = .exited 0 := by
  rw [← firstFailing?_eq_none_iff]
  constructor
  · intro zero
    cases found : firstFailing? turns with
    | none => rfl
    | some turn =>
        have fails := fails_of_firstFailing? found
        cases ended : turn.attempt.outcome.status with
        | ok status =>
            rw [verdict_of_status found ended, Except.ok.injEq] at zero
            exact absurd zero (status_ne_zero_of_fails fails ended)
        | error fault =>
            rw [verdict_of_fault found ended] at zero
            cases zero
  · intro allSucceed
    simp only [verdict, allSucceed]

/-- Turns raise a failure of a command with a status if that is the command of the first turn that
fails and the status is theirs. -/
theorem outcome_raises_iff {turns : List Turn} (command : List String) (status : Int) :
    (∃ failure, outcome turns = .error failure ∧ failure.command? = some command ∧
        failure.exitCode? = some status) ↔
      status ≠ 0 ∧ verdict turns = .ok status ∧
        ∃ turn, firstFailing? turns = some turn ∧ turn.invocation.argv = command := by
  cases found : firstFailing? turns with
  | none =>
      simp only [outcome, verdict, found]
      constructor
      · rintro ⟨failure, impossible, -⟩
        cases impossible
      · rintro ⟨-, -, turn, impossible, -⟩
        cases impossible
  | some turn =>
      have fails := fails_of_firstFailing? found
      simp only [outcome, found]
      cases ended : turn.attempt.outcome.status with
      | ok exitCode =>
          rcases result_of_status fails ended with ⟨failure, raised, itsCommand, itsStatus⟩
          have nonzero := status_ne_zero_of_fails fails ended
          rw [raised, verdict_of_status found ended]
          constructor
          · rintro ⟨other, same, command_eq, status_eq⟩
            cases same
            rw [itsCommand, Option.some.injEq] at command_eq
            rw [itsStatus, Option.some.injEq] at status_eq
            subst status_eq
            exact ⟨nonzero, rfl, turn, rfl, command_eq⟩
          · rintro ⟨-, status_eq, other, same, command_eq⟩
            cases status_eq
            cases same
            rw [command_eq] at itsCommand
            exact ⟨failure, rfl, itsCommand, itsStatus⟩
      | error fault =>
          rw [result_of_fault ended, verdict_of_fault found ended]
          constructor
          · rintro ⟨failure, same, impossible, -⟩
            cases same
            cases impossible
          · rintro ⟨-, impossible, -⟩
            cases impossible

end Turn

namespace Dispatcher

variable {State : Type} {sink : Sink State} {dispatcher : Dispatcher} {name : Option String}
  {steps : List Invocation} {records : List LogRecord}

/-- The commands that a dispatch starts are those of the turns reached. -/
theorem commands_dispatch (tolerated : sink.Tolerated)
    (resolved : dispatcher.stepsFor name = (.ok steps, records)) (session : Session State) :
    Observation.commands (dispatcher.dispatch sink name session).trace =
      (Turn.reached (Turn.schedule steps session.attempts)).map fun turn =>
        turn.invocation.argv := by
  rw [← Observation.commands_withoutLosses, withoutLosses_dispatch tolerated resolved,
    Observation.commands_append, Observation.commands_append, Turn.commands_traceFrom,
    Turn.commands_closing, Observation.commands_withoutLosses, Observation.commands_logged,
    List.nil_append, List.append_nil]

/-- A dispatch of a listed name starts the commands of its steps up to and including the first one
that does not return zero. Its result is zero if there is none, and is decided by that one
otherwise. The pipeline of the steps raises a failure of a command if and only if the result is a
status other than zero. The runner remembers the command that was started last. -/
theorem dispatch_listed (dispatcher : Dispatcher) {sink : Sink State} (tolerated : sink.Tolerated)
    {name : Option String} {steps : List Invocation}
    (listed : dispatcher.table.steps? name = some steps) (session : Session State) :
    let turns := Turn.schedule steps session.attempts
    let ran := dispatcher.dispatch sink name session
    let started := Observation.commands ran.trace
    started = (Turn.reached turns).map (fun turn => turn.invocation.argv) ∧
      ran.result = Turn.verdict turns ∧
      (ran.result = .ok 0 ↔
        started = steps.map Invocation.argv ∧
          ∀ turn ∈ turns, turn.attempt.outcome = .exited 0) ∧
      (∀ command status,
        (∃ failure, (Runner.runSteps sink steps session).result = .error failure ∧
            failure.command? = some command ∧ failure.exitCode? = some status) ↔
          status ≠ 0 ∧ ran.result = .ok status ∧
            ∃ turn, Turn.firstFailing? turns = some turn ∧ turn.invocation.argv = command) ∧
      ran.session.lastCommand = started.getLast?.or session.lastCommand := by
  intro turns ran started
  have resolved := stepsFor_of_listed listed
  have commands : started = (Turn.reached turns).map fun turn => turn.invocation.argv :=
    commands_dispatch tolerated resolved session
  have result : ran.result = Turn.verdict turns := result_dispatch tolerated resolved session
  have piped : (Runner.runSteps sink steps session).result = Turn.outcome turns :=
    Runner.result_runFrom tolerated 1 steps session
  refine ⟨commands, result, ?_, ?_, ?_⟩
  · rw [result, Turn.verdict_eq_zero_iff]
    constructor
    · intro allSucceed
      refine ⟨?_, allSucceed⟩
      rw [commands, Turn.reached_eq_self (Turn.firstFailing?_eq_none_iff.mpr allSucceed)]
      rw [← Turn.invocation_schedule steps session.attempts, List.map_map]
      rfl
    · exact And.right
  · intro command status
    rw [piped, result]
    exact Turn.outcome_raises_iff command status
  · rcases session_dispatch tolerated resolved session with ⟨store, left⟩
    rw [left, commands, List.getLast?_map]
    rfl

/-- Telemetry is lost, and the second step of three is killed by a signal. -/
theorem dispatch_listed_killed :
    let sink := Sink.recorder fun _ => some ⟨.telemetry, "no space"⟩
    let steps : List Invocation := [⟨"make", ["all"]⟩, ⟨"make", ["check"]⟩, ⟨"make", ["doc"]⟩]
    let dispatcher : Dispatcher := { table := ⟨[(some "", []), (none, steps)]⟩ }
    let session : Session Nat := ⟨[{}, { outcome := .exited (-9) }], some ["old"], 0⟩
    let ran := dispatcher.dispatch sink none session
    sink.Tolerated ∧ dispatcher.table.steps? none = some steps ∧
      Observation.commands ran.trace = [["make", "all"], ["make", "check"]] ∧
      ran.result = .ok 137 ∧ ran.session.lastCommand = some ["make", "check"] := by
  intro sink steps dispatcher session ran
  have tolerated : sink.Tolerated := by
    intro emission store fault raised
    cases raised
    rfl
  have listed : dispatcher.table.steps? none = some steps := rfl
  rcases dispatch_listed dispatcher tolerated listed session with
    ⟨commands, result, -, -, last⟩
  refine ⟨tolerated, listed, commands, result, ?_⟩
  rw [last, commands]
  rfl

end Dispatcher

end BuildSteps
