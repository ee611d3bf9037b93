import BuildSteps.Proofs.Dispatch.Reports

/-!
# What a single run records

A run starts one process. If the process ends in a way for which a report is due, the run sends that
report and no other, whatever the sink does with it. If it ends by any other fault, nothing is sent:
the fault passes through before the report would be made, and the process, although it was started,
leaves no record.
-/

namespace BuildSteps.Runner

variable {State : Type} {sink : Sink State}

theorem emissions_report (emission : Emission) (handling : Handling) (session : Session State) :
    Observation.emissions (report sink emission handling session).trace = [emission] := by
  unfold report
  split
  · rfl
  · split <;> rfl

/-- A report sends its emission once, whether or not a fault is raised. -/
theorem store_report (emission : Emission) (handling : Handling) (session : Session State) :
    (report sink emission handling session).session.store =
      (sink.send emission session.store).2 := by
  unfold report
  split
  · rename_i store sent
    simp [sent]
  · rename_i fault store sent
    split <;> simp [sent]

theorem commands_report (emission : Emission) (handling : Handling) (session : Session State) :
    Observation.commands (report sink emission handling session).trace = [] := by
  unfold report
  split
  · rfl
  · split <;> rfl

section Handled

variable {invocation : Invocation} {attempt : Attempt}

/-- A process that is dealt with raises no failure if and only if its exit code is zero. -/
theorem result_of_handled {handling : Handling}
    (handled : handle invocation attempt = .ok handling) :
    Handling.result handling = .ok () ↔ handling.exitCode = 0 := by
  cases ended : attempt.outcome.status with
  | ok status =>
      rcases handle_of_status invocation ended with ⟨other, same, exitCode, quiet, raises⟩
      rw [handled, Except.ok.injEq] at same
      subst same
      subst exitCode
      by_cases zero : handling.exitCode = 0
      · simp [Handling.result, quiet zero, zero]
      · rcases raises zero with ⟨failure, raised, -, -⟩
        simp [Handling.result, raised, zero]
  | error fault =>
      rw [handle_of_fault ended] at handled
      cases handled

/-- A fault that passes through a runner is the one that was raised at the start of the process.
-/
theorem outcome_of_passed {fault : Fault} (passed : handle invocation attempt = .error fault) :
    attempt.outcome = .raised fault := by
  cases ended : attempt.outcome.status with
  | ok status =>
      rcases handle_of_status invocation ended with ⟨handling, handled, -⟩
      rw [passed] at handled
      cases handled
  | error other =>
      rw [handle_of_fault ended, Except.error.injEq] at passed
      subst passed
      cases outcome : attempt.outcome with
      | exited returnCode => simp [outcome, Outcome.status_exited] at ended
      | raised raised =>
          simp only [outcome, Outcome.status] at ended
          split at ended <;> cases ended
          rfl

end Handled

/-- A run starts its process, and sends exactly one report on it if one is due: the event and the
exit code that are due, with the command. Unless the sink raises a fault of another kind, the exit
code is zero if and only if the run succeeds. If the process ends by a fault for which no report is
due, nothing is sent, and the run fails with that fault. -/
theorem run_recorded (sink : Sink State) (invocation : Invocation) (session : Session State) :
    let outcome := (nextAttempt session).outcome
    let ran := run sink invocation session
    Observation.commands ran.trace = [invocation.argv] ∧
      match outcome.due? with
      | some (event, exitCode) =>
        ∃ emission, Observation.emissions ran.trace = [emission] ∧
          emission.event.name = event ∧ emission.exitCode = exitCode ∧
          emission.command = invocation.argv ∧
          ran.session.store = (sink.send emission session.store).2 ∧
          (sink.Tolerated → (emission.exitCode = 0 ↔ ran.result = .ok ()))
      | none =>
        Observation.emissions ran.trace = [] ∧ ran.session.store = session.store ∧
          ∃ fault, outcome = .raised fault ∧ ran.result = .error (.passed fault) := by
  intro outcome ran
  cases handled : handle invocation (nextAttempt session) with
  | ok handling =>
      have due : outcome.due? = some (handling.event.name, handling.exitCode) :=
        due?_of_handled handled
      have whole : ran = _ := run_of_handled handled
      rw [whole, due]
      refine ⟨?_, (turn invocation session).emission handling, ?_, rfl, rfl, rfl, ?_, ?_⟩
      · rw [Observation.commands_append, reported, commands_report]
        rfl
      · rw [Observation.emissions, List.filterMap_append]
        exact emissions_report _ handling _
      · exact store_report _ handling _
      · intro tolerated
        rw [reported, result_report tolerated]
        exact (result_of_handled handled).symm
  | error fault =>
      have nothing : outcome.due? = none := due?_of_passed handled
      have whole : ran = _ := run_of_passed handled
      rw [whole, nothing]
      exact ⟨rfl, rfl, rfl, fault, outcome_of_passed handled, rfl⟩

/-- The process is killed by a signal, and the sink refuses the report on it. -/
theorem run_recorded_killed :
    let sink : Sink Nat := .recorder fun _ => some ⟨.telemetry, "full"⟩
    let invocation : Invocation := ⟨"cargo", ["doc"]⟩
    let session : Session Nat := { attempts := [{ outcome := .exited (-9) }], store := 0 }
    let ran := run sink invocation session
    sink.Tolerated ∧
      ∃ emission, Observation.emissions ran.trace = [emission] ∧
        emission.event.name = "toolchain.failure" ∧ emission.exitCode = 137 ∧
        emission.command = ["cargo", "doc"] ∧ ran.session.store = 1 ∧ ran.result ≠ .ok () := by
  intro sink invocation session ran
  have tolerated : sink.Tolerated := by
    intro emission store fault raised
    cases raised
    rfl
  rcases (run_recorded sink invocation session).2 with
    ⟨emission, sent, event, exitCode, command, store, succeeds⟩
  refine ⟨tolerated, emission, sent, event, exitCode, command, store, ?_⟩
  intro success
  rw [(succeeds tolerated).mpr success] at exitCode
  cases exitCode

end BuildSteps.Runner
