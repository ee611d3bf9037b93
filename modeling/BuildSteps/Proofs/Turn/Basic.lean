import BuildSteps.Runner

/-!
# Turns

A run of steps is laid out beforehand as a list of turns: each step is paired with the attempt that
it meets if it is started at all. Only the turns up to and including the first unsuccessful one are
reached. What a turn comes to, and what is observed of it, follows from its step and its attempt
alone; neither the sink of the telemetry nor an earlier turn has a part in it.
-/

namespace BuildSteps

/-- The exit status by which a shell reports the end of a process, or the fault that has none. -/
def Outcome.status : Outcome → Except Fault Int
  | .exited returnCode =>
    if 0 ≤ returnCode then .ok returnCode else .ok (128 + (returnCode.natAbs : Int))
  | .raised fault =>
    match fault.kind with
    | .missingFile => .ok 127
    | .interrupt => .ok 130
    | _ => .error fault

/-- The command that a failure carries. -/
def Failure.command? : Failure → Option (List String)
  | .command failure => some failure.command
  | .notFound program arguments => some (program :: arguments)
  | _ => none

theorem Outcome.status_exited (returnCode : Int) :
    (Outcome.exited returnCode).status = .ok (exitStatus returnCode) := by
  simp only [Outcome.status, exitStatus]
  by_cases nonnegative : 0 ≤ returnCode
  · rw [if_pos nonnegative, if_neg (by omega)]
  · rw [if_neg nonnegative, if_pos (by omega), Except.ok.injEq]
    omega

/-- The status 0 comes from a process that exited with 0 only. -/
theorem Outcome.eq_exited_zero_of_status {outcome : Outcome} (zero : outcome.status = .ok 0) :
    outcome = .exited 0 := by
  cases outcome with
  | exited returnCode =>
      simp only [Outcome.status] at zero
      split at zero
      · simpa using zero
      · simp only [Except.ok.injEq] at zero
        omega
  | raised fault =>
      simp only [Outcome.status] at zero
      split at zero <;> simp at zero

/-- A process that ends with a status is dealt with. The event is then reported with that status,
and there is a failure with that status and the command unless the status is zero. -/
theorem Runner.handle_of_status (step : Invocation) {attempt : Attempt} {status : Int}
    (ended : attempt.outcome.status = .ok status) :
    ∃ handling, handle step attempt = .ok handling ∧ handling.exitCode = status ∧
      (status = 0 → handling.failure = none) ∧
      (status ≠ 0 → ∃ failure, handling.failure = some failure ∧
        failure.command? = some step.argv ∧ failure.exitCode? = some status) := by
  unfold handle
  cases outcome : attempt.outcome with
  | exited returnCode =>
      rw [outcome, Outcome.status_exited, Except.ok.injEq] at ended
      subst ended
      by_cases zero : exitStatus returnCode = 0
      · simp only [zero, if_true]
        exact ⟨_, rfl, rfl, fun _ => rfl, fun nonzero => absurd rfl nonzero⟩
      · simp only [zero, if_false]
        exact ⟨_, rfl, rfl, False.elim, fun _ => ⟨_, rfl, rfl, rfl⟩⟩
  | raised fault =>
      rw [outcome] at ended
      simp only [Outcome.status] at ended
      split at ended
      · rename_i missing
        cases ended
        simp only [missing]
        exact ⟨_, rfl, rfl, by simp, fun _ => ⟨_, rfl, rfl, rfl⟩⟩
      · rename_i interrupt
        cases ended
        simp only [interrupt]
        exact ⟨_, rfl, rfl, by simp, fun _ => ⟨_, rfl, rfl, rfl⟩⟩
      · simp at ended

/-- A fault that gives no status passes through the runner. -/
theorem Runner.handle_of_fault {step : Invocation} {attempt : Attempt} {fault : Fault}
    (ended : attempt.outcome.status = .error fault) : handle step attempt = .error fault := by
  unfold handle
  cases outcome : attempt.outcome with
  | exited returnCode => simp [outcome, Outcome.status_exited] at ended
  | raised raised =>
      rw [outcome] at ended
      simp only [Outcome.status] at ended
      split at ended
      · simp at ended
      · simp at ended
      · rename_i notMissing notInterrupt
        cases ended
        dsimp only
        split
        · rename_i missing
          exact absurd missing notMissing
        · rename_i interrupt
          exact absurd interrupt notInterrupt
        · rfl

/-- A sink is tolerated if it raises telemetry faults only. -/
def Sink.Tolerated {State : Type} (sink : Sink State) : Prop :=
  ∀ emission store fault, (sink.send emission store).1 = .error fault → fault.kind = .telemetry

/-- A sink is silent if it never raises a fault. -/
def Sink.Silent {State : Type} (sink : Sink State) : Prop :=
  ∀ emission store, (sink.send emission store).1 = .ok ()

theorem Sink.Silent.tolerated {State : Type} {sink : Sink State} (silent : sink.Silent) :
    sink.Tolerated := by
  intro emission store fault raised
  rw [silent emission store] at raised
  simp at raised

/-- A step paired with the attempt that it meets. -/
structure Turn where
  invocation : Invocation
  attempt : Attempt

namespace Turn

/-- Whether the process of a turn returned zero. -/
def succeeds (turn : Turn) : Bool :=
  decide (turn.attempt.outcome = .exited 0)

/-- Steps paired with the attempts that they meet if all of them are started. A step that no attempt
is listed for succeeds. -/
def schedule : List Invocation → List Attempt → List Turn
  | [], _ => []
  | step :: rest, attempts => ⟨step, attempts.head?.getD {}⟩ :: schedule rest attempts.tail

/-- The first turn that does not succeed. -/
def firstFailing? (turns : List Turn) : Option Turn :=
  turns.find? fun turn => !turn.succeeds

/-- The turns up to and including the first one that does not succeed. -/
def reached (turns : List Turn) : List Turn :=
  turns.takeWhile succeeds ++ (firstFailing? turns).toList

/-- What a turn comes to. -/
def result (turn : Turn) : Except Failure Unit :=
  match Runner.handle turn.invocation turn.attempt with
  | .ok handling => Runner.Handling.result handling
  | .error fault => .error (.passed fault)

/-- The report on a turn that is dealt with in some way. -/
def emission (turn : Turn) (handling : Handling) : Emission :=
  ⟨handling.event, turn.invocation.argv, turn.attempt.duration, handling.exitCode⟩

/-- What is observed of a turn if telemetry is not lost. -/
def trace (turn : Turn) : List Observation :=
  [.logged (.executing turn.invocation), .started turn.invocation.argv] ++
    match Runner.handle turn.invocation turn.attempt with
    | .ok handling => [.emitted (turn.emission handling), .logged handling.remark]
    | .error _ => []

/-- What is observed of turns that are numbered from an index. -/
def traceFrom (index : Nat) (turns : List Turn) : List Observation :=
  (turns.zipIdx index).flatMap fun numbered =>
    .logged (.step numbered.2 numbered.1.invocation) :: numbered.1.trace

/-- The command of the last of some turns, or the one from before if there are none. -/
def lastCommand (turns : List Turn) (before : Option (List String)) : Option (List String) :=
  (turns.getLast?.map fun turn => turn.invocation.argv).or before

@[simp]
theorem lastCommand_nil (before : Option (List String)) : lastCommand [] before = before := rfl

theorem lastCommand_cons (turn : Turn) (rest : List Turn) (before : Option (List String)) :
    lastCommand (turn :: rest) before = lastCommand rest (some turn.invocation.argv) := by
  simp only [lastCommand, List.getLast?_cons]
  cases rest.getLast? <;> rfl

theorem firstFailing?_cons_of_succeeds {turn : Turn} (succeeds : turn.succeeds = true)
    (rest : List Turn) : firstFailing? (turn :: rest) = firstFailing? rest := by
  simp [firstFailing?, succeeds]

theorem firstFailing?_cons_of_fails {turn : Turn} (fails : turn.succeeds = false)
    (rest : List Turn) : firstFailing? (turn :: rest) = some turn := by
  simp [firstFailing?, fails]

theorem reached_cons_of_succeeds {turn : Turn} (succeeds : turn.succeeds = true)
    (rest : List Turn) : reached (turn :: rest) = turn :: reached rest := by
  simp [reached, succeeds, firstFailing?_cons_of_succeeds succeeds]

theorem reached_cons_of_fails {turn : Turn} (fails : turn.succeeds = false) (rest : List Turn) :
    reached (turn :: rest) = [turn] := by
  simp [reached, fails, firstFailing?_cons_of_fails fails]

@[simp]
theorem traceFrom_nil (index : Nat) : traceFrom index [] = [] := rfl

theorem traceFrom_cons (index : Nat) (turn : Turn) (rest : List Turn) :
    traceFrom index (turn :: rest) =
      .logged (.step index turn.invocation) :: turn.trace ++ traceFrom (index + 1) rest := by
  simp [traceFrom, List.zipIdx_cons]

theorem firstFailing?_eq_none_iff {turns : List Turn} :
    firstFailing? turns = none ↔ ∀ turn ∈ turns, turn.attempt.outcome = .exited 0 := by
  simp [firstFailing?, succeeds]

theorem fails_of_firstFailing? {turns : List Turn} {turn : Turn}
    (found : firstFailing? turns = some turn) : turn.succeeds = false := by
  have fails := List.find?_some found
  simpa using fails

theorem mem_of_firstFailing? {turns : List Turn} {turn : Turn}
    (found : firstFailing? turns = some turn) : turn ∈ turns :=
  List.mem_of_find?_eq_some found

/-- A scheduled turn has one of the steps, and one of the attempts or the default. -/
theorem mem_schedule {steps : List Invocation} {attempts : List Attempt} {turn : Turn}
    (occurs : turn ∈ schedule steps attempts) :
    turn.invocation ∈ steps ∧ (turn.attempt ∈ attempts ∨ turn.attempt = {}) := by
  induction steps generalizing attempts with
  | nil => cases occurs
  | cons step rest ih =>
      simp only [schedule, List.mem_cons] at occurs
      rcases occurs with rfl | later
      · refine ⟨List.mem_cons_self .., ?_⟩
        cases attempts with
        | nil => exact Or.inr rfl
        | cons attempt others => exact Or.inl (List.mem_cons_self ..)
      · rcases ih later with ⟨listed, met⟩
        refine ⟨List.mem_cons_of_mem _ listed, ?_⟩
        rcases met with met | unlisted
        · exact Or.inl (List.mem_of_mem_tail met)
        · exact Or.inr unlisted

theorem invocation_schedule (steps : List Invocation) (attempts : List Attempt) :
    (schedule steps attempts).map Turn.invocation = steps := by
  induction steps generalizing attempts with
  | nil => rfl
  | cons step rest ih => simp [schedule, ih]

theorem reached_eq_self {turns : List Turn} (none_fails : firstFailing? turns = none) :
    reached turns = turns := by
  induction turns with
  | nil => rfl
  | cons turn rest ih =>
      cases succeeds : turn.succeeds with
      | true =>
          rw [firstFailing?_cons_of_succeeds succeeds] at none_fails
          rw [reached_cons_of_succeeds succeeds, ih none_fails]
      | false =>
          rw [firstFailing?_cons_of_fails succeeds] at none_fails
          simp at none_fails

theorem getLast?_reached {turns : List Turn} {turn : Turn}
    (found : firstFailing? turns = some turn) : (reached turns).getLast? = some turn := by
  simp [reached, found]

theorem status_of_succeeds {turn : Turn} (succeeds : turn.succeeds = true) :
    turn.attempt.outcome.status = .ok 0 := by
  have zero : turn.attempt.outcome = .exited 0 := by simpa [Turn.succeeds] using succeeds
  rw [zero]
  rfl

theorem status_ne_zero_of_fails {turn : Turn} {status : Int} (fails : turn.succeeds = false)
    (ended : turn.attempt.outcome.status = .ok status) : status ≠ 0 := by
  rintro rfl
  have zero := Outcome.eq_exited_zero_of_status ended
  simp [Turn.succeeds, zero] at fails

theorem result_of_succeeds {turn : Turn} (succeeds : turn.succeeds = true) :
    turn.result = .ok () := by
  rcases Runner.handle_of_status turn.invocation (status_of_succeeds succeeds) with
    ⟨handling, handled, -, noFailure, -⟩
  simp [result, handled, Runner.Handling.result, noFailure rfl]

/-- A turn that fails with a status raises a failure with that status and its own command. -/
theorem result_of_status {turn : Turn} {status : Int} (fails : turn.succeeds = false)
    (ended : turn.attempt.outcome.status = .ok status) :
    ∃ failure, turn.result = .error failure ∧
      failure.command? = some turn.invocation.argv ∧ failure.exitCode? = some status := by
  rcases Runner.handle_of_status turn.invocation ended with
    ⟨handling, handled, -, -, raises⟩
  rcases raises (status_ne_zero_of_fails fails ended) with ⟨failure, raised, command, exitCode⟩
  refine ⟨failure, ?_, command, exitCode⟩
  simp [result, handled, Runner.Handling.result, raised]

theorem result_of_fault {turn : Turn} {fault : Fault}
    (ended : turn.attempt.outcome.status = .error fault) :
    turn.result = .error (.passed fault) := by
  rw [result, Runner.handle_of_fault ended]

theorem exists_failure_of_fails {turn : Turn} (fails : turn.succeeds = false) :
    ∃ failure, turn.result = .error failure := by
  cases ended : turn.attempt.outcome.status with
  | ok status =>
      rcases result_of_status fails ended with ⟨failure, raised, -, -⟩
      exact ⟨failure, raised⟩
  | error fault => exact ⟨_, result_of_fault ended⟩

/-- What turns come to: the result of the first one that fails. -/
def outcome (turns : List Turn) : Except Failure Unit :=
  match firstFailing? turns with
  | none => .ok ()
  | some turn => turn.result

theorem outcome_cons_of_succeeds {turn : Turn} (succeeds : turn.succeeds = true)
    (rest : List Turn) : outcome (turn :: rest) = outcome rest := by
  simp [outcome, firstFailing?_cons_of_succeeds succeeds]

theorem outcome_cons_of_fails {turn : Turn} (fails : turn.succeeds = false) (rest : List Turn) :
    outcome (turn :: rest) = turn.result := by
  simp [outcome, firstFailing?_cons_of_fails fails]

end Turn

end BuildSteps
