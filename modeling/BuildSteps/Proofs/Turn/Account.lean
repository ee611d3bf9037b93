import BuildSteps.Proofs.Turn.Basic

/-!
# Runs in closed form

This file shows that a run of steps is determined by its turns. With a sink that raises telemetry
faults only, the result of a run, the command it leaves as the last one and the attempts it leaves
are read off the reached turns, and so is its trace apart from the log records of lost telemetry.

A turn is a single step of the induction: `Runner.result_run`, `Runner.withoutLosses_run` and
`Runner.session_run` describe it, and the three statements on `Runner.runFrom` follow the recursion
of the run over its steps.
-/

namespace BuildSteps

namespace Observation

/-- Whether an observation is the log record of lost telemetry. -/
def isLoss : Observation → Bool
  | .logged (.telemetryLost _) => true
  | _ => false

/-- A trace without the log records of lost telemetry. -/
def withoutLosses (trace : List Observation) : List Observation :=
  trace.filter fun observation => !observation.isLoss

@[simp]
theorem withoutLosses_nil : withoutLosses [] = [] := rfl

theorem withoutLosses_cons_of_isLoss {first : Observation} (loss : first.isLoss = true)
    (rest : List Observation) : withoutLosses (first :: rest) = withoutLosses rest := by
  simp [withoutLosses, loss]

theorem withoutLosses_cons_of_not_isLoss {first : Observation} (noLoss : first.isLoss = false)
    (rest : List Observation) : withoutLosses (first :: rest) = first :: withoutLosses rest := by
  simp [withoutLosses, noLoss]

@[simp]
theorem withoutLosses_append (first second : List Observation) :
    withoutLosses (first ++ second) = withoutLosses first ++ withoutLosses second := by
  simp [withoutLosses]

@[simp]
theorem commands_append (first second : List Observation) :
    commands (first ++ second) = commands first ++ commands second := by
  simp [commands]

@[simp]
theorem command?_of_isLoss {observation : Observation} (loss : observation.isLoss = true) :
    observation.command? = none := by
  cases observation with
  | logged record => rfl
  | started command => simp [isLoss] at loss
  | emitted emission => rfl

theorem commands_withoutLosses (trace : List Observation) :
    commands (withoutLosses trace) = commands trace := by
  induction trace with
  | nil => rfl
  | cons first rest ih =>
      cases loss : first.isLoss with
      | true =>
          have unstarted := command?_of_isLoss loss
          rw [withoutLosses_cons_of_isLoss loss, ih]
          simp [commands, unstarted]
      | false =>
          rw [withoutLosses_cons_of_not_isLoss loss]
          simp only [commands, List.filterMap_cons] at ih ⊢
          rw [ih]

@[simp]
theorem commands_logged (records : List LogRecord) : commands (records.map .logged) = [] := by
  induction records with
  | nil => rfl
  | cons first rest ih => simp [commands, command?]

end Observation

namespace Runner

variable {State : Type} {sink : Sink State}

theorem isLoss_remark {invocation : Invocation} {attempt : Attempt} {handling : Handling}
    (handled : handle invocation attempt = .ok handling) :
    (Observation.logged handling.remark).isLoss = false := by
  unfold handle at handled
  split at handled
  · dsimp only at handled
    split at handled <;> (cases handled; rfl)
  · split at handled <;> cases handled <;> rfl

/-- A tolerated sink does not change the result of a report. -/
theorem result_report (tolerated : sink.Tolerated) (emission : Emission) (handling : Handling)
    (session : Session State) :
    (report sink emission handling session).result = Handling.result handling := by
  unfold report
  split
  · rfl
  · rename_i fault store sent
    have kind := tolerated emission session.store fault (by rw [sent])
    simp [kind]

/-- Lost telemetry apart, a report is its emission and its remark. -/
theorem withoutLosses_report (tolerated : sink.Tolerated) (emission : Emission)
    {handling : Handling} (plain : (Observation.logged handling.remark).isLoss = false)
    (session : Session State) :
    Observation.withoutLosses (report sink emission handling session).trace =
      [.emitted emission, .logged handling.remark] := by
  have sentPlain : (Observation.emitted emission).isLoss = false := rfl
  unfold report
  split
  · rw [Observation.withoutLosses_cons_of_not_isLoss sentPlain,
      Observation.withoutLosses_cons_of_not_isLoss plain, Observation.withoutLosses_nil]
  · rename_i fault store sent
    have kind := tolerated emission session.store fault (by rw [sent])
    have lost : (Observation.logged (.telemetryLost fault.text)).isLoss = true := rfl
    simp only [kind, if_true]
    rw [Observation.withoutLosses_cons_of_not_isLoss sentPlain,
      Observation.withoutLosses_cons_of_isLoss lost,
      Observation.withoutLosses_cons_of_not_isLoss plain, Observation.withoutLosses_nil]

/-- A report changes nothing of a session but its store. -/
theorem session_report (tolerated : sink.Tolerated) (emission : Emission) (handling : Handling)
    (session : Session State) :
    ∃ store, (report sink emission handling session).session = { session with store := store } := by
  unfold report
  split
  · exact ⟨_, rfl⟩
  · rename_i fault store sent
    have kind := tolerated emission session.store fault (by rw [sent])
    simp only [kind, if_true]
    exact ⟨_, rfl⟩

/-- The turn that a step makes in a session. -/
def turn (step : Invocation) (session : Session State) : Turn :=
  ⟨step, nextAttempt session⟩

/-- The report that is made of a step in a session if it is dealt with. -/
def reported (sink : Sink State) (step : Invocation) (handling : Handling)
    (session : Session State) : Effect State Unit :=
  report sink ((turn step session).emission handling) handling (started session step)

/-- A run whose outcome is handled is the start of its process and a report. -/
theorem run_of_handled {step : Invocation} {session : Session State} {handling : Handling}
    (handled : handle step (nextAttempt session) = .ok handling) :
    run sink step session =
      ⟨(reported sink step handling session).result,
        [.logged (.executing step), .started step.argv] ++
          (reported sink step handling session).trace,
        (reported sink step handling session).session⟩ := by
  unfold run
  simp only [handled]
  rfl

theorem run_of_passed {step : Invocation} {session : Session State} {fault : Fault}
    (passed : handle step (nextAttempt session) = .error fault) :
    run sink step session =
      ⟨.error (.passed fault), [.logged (.executing step), .started step.argv],
        started session step⟩ := by
  unfold run
  simp only [passed]

/-- With a tolerated sink the result of a run is that of its turn. -/
theorem result_run (tolerated : sink.Tolerated) (step : Invocation) (session : Session State) :
    (run sink step session).result = (turn step session).result := by
  cases handled : handle step (nextAttempt session) with
  | ok handling =>
      rw [run_of_handled handled]
      simp only [Turn.result, turn, handled]
      exact result_report tolerated _ handling _
  | error fault =>
      rw [run_of_passed handled]
      simp only [Turn.result, turn, handled]

/-- Lost telemetry apart, a run is observed as its turn. -/
theorem withoutLosses_run (tolerated : sink.Tolerated) (step : Invocation)
    (session : Session State) :
    Observation.withoutLosses (run sink step session).trace = (turn step session).trace := by
  cases handled : handle step (nextAttempt session) with
  | ok handling =>
      rw [run_of_handled handled]
      simp only [Turn.trace, turn, handled, Observation.withoutLosses_append]
      rw [reported, withoutLosses_report tolerated _ (isLoss_remark handled)]
      rfl
  | error fault =>
      rw [run_of_passed handled]
      simp only [Turn.trace, turn, handled]
      rfl

/-- A run uses up one attempt, and its command is the last. -/
theorem session_run (tolerated : sink.Tolerated) (step : Invocation) (session : Session State) :
    ∃ store, (run sink step session).session =
      { attempts := session.attempts.tail, lastCommand := some step.argv, store := store } := by
  cases handled : handle step (nextAttempt session) with
  | ok handling =>
      rw [run_of_handled handled]
      exact session_report tolerated _ handling (started session step)
  | error fault =>
      rw [run_of_passed handled]
      exact ⟨session.store, rfl⟩

theorem schedule_cons (step : Invocation) (rest : List Invocation) (session : Session State) :
    Turn.schedule (step :: rest) session.attempts =
      turn step session :: Turn.schedule rest session.attempts.tail := rfl

/-- A step that succeeds is followed by the run of the others. -/
theorem runFrom_cons_of_succeeds {index : Nat} {step : Invocation} {rest : List Invocation}
    {session : Session State} (ok : (run sink step session).result = .ok ()) :
    runFrom sink index (step :: rest) session =
      ⟨(runFrom sink (index + 1) rest (run sink step session).session).result,
        .logged (.step index step) :: (run sink step session).trace ++
          (runFrom sink (index + 1) rest (run sink step session).session).trace,
        (runFrom sink (index + 1) rest (run sink step session).session).session⟩ := by
  simp only [runFrom, ok]

theorem runFrom_cons_of_fails {index : Nat} {step : Invocation} {rest : List Invocation}
    {session : Session State} {failure : Failure}
    (raised : (run sink step session).result = .error failure) :
    runFrom sink index (step :: rest) session =
      ⟨.error failure, .logged (.step index step) :: (run sink step session).trace,
        (run sink step session).session⟩ := by
  simp only [runFrom, raised]

/-- A run comes to the result of the first turn that fails. -/
theorem result_runFrom (tolerated : sink.Tolerated) (index : Nat) (steps : List Invocation)
    (session : Session State) :
    (runFrom sink index steps session).result =
      Turn.outcome (Turn.schedule steps session.attempts) := by
  induction steps generalizing index session with
  | nil => rfl
  | cons step rest ih =>
      have first := result_run tolerated step session
      rcases session_run tolerated step session with ⟨store, left⟩
      rw [schedule_cons]
      cases succeeds : (turn step session).succeeds with
      | true =>
          rw [Turn.result_of_succeeds succeeds] at first
          rw [runFrom_cons_of_succeeds first, ih, Turn.outcome_cons_of_succeeds succeeds, left]
      | false =>
          rcases Turn.exists_failure_of_fails succeeds with ⟨failure, raised⟩
          rw [Turn.outcome_cons_of_fails succeeds, raised]
          rw [raised] at first
          rw [runFrom_cons_of_fails first]

/-- Apart from lost telemetry, the trace of a run is that of the reached turns. -/
theorem withoutLosses_runFrom (tolerated : sink.Tolerated) (index : Nat)
    (steps : List Invocation) (session : Session State) :
    Observation.withoutLosses (runFrom sink index steps session).trace =
      Turn.traceFrom index (Turn.reached (Turn.schedule steps session.attempts)) := by
  induction steps generalizing index session with
  | nil => rfl
  | cons step rest ih =>
      have first := result_run tolerated step session
      have observed := withoutLosses_run tolerated step session
      have plain : (Observation.logged (.step index step)).isLoss = false := rfl
      rcases session_run tolerated step session with ⟨store, left⟩
      rw [schedule_cons]
      cases succeeds : (turn step session).succeeds with
      | true =>
          rw [Turn.result_of_succeeds succeeds] at first
          rw [runFrom_cons_of_succeeds first, Turn.reached_cons_of_succeeds succeeds,
            Turn.traceFrom_cons, List.cons_append,
            Observation.withoutLosses_cons_of_not_isLoss plain, Observation.withoutLosses_append,
            observed, ih, left]
          rfl
      | false =>
          rcases Turn.exists_failure_of_fails succeeds with ⟨failure, raised⟩
          rw [raised] at first
          rw [runFrom_cons_of_fails first, Turn.reached_cons_of_fails succeeds,
            Turn.traceFrom_cons, Turn.traceFrom_nil, List.append_nil,
            Observation.withoutLosses_cons_of_not_isLoss plain, observed]
          rfl

/-- A run leaves the attempts that no reached turn met, and the command of the last reached turn. -/
theorem session_runFrom (tolerated : sink.Tolerated) (index : Nat) (steps : List Invocation)
    (session : Session State) :
    let reached := Turn.reached (Turn.schedule steps session.attempts)
    ∃ store, (runFrom sink index steps session).session =
      { attempts := session.attempts.drop reached.length
        lastCommand := Turn.lastCommand reached session.lastCommand
        store := store } := by
  induction steps generalizing index session with
  | nil => exact ⟨session.store, rfl⟩
  | cons step rest ih =>
      have first := result_run tolerated step session
      rcases session_run tolerated step session with ⟨store, left⟩
      rw [schedule_cons]
      cases succeeds : (turn step session).succeeds with
      | true =>
          rw [Turn.result_of_succeeds succeeds] at first
          rw [runFrom_cons_of_succeeds first, Turn.reached_cons_of_succeeds succeeds]
          rcases ih (index + 1) (run sink step session).session with ⟨later, leaves⟩
          refine ⟨later, ?_⟩
          rw [left] at leaves
          simp only [left, leaves, Turn.lastCommand_cons, List.length_cons, List.drop_tail]
          rfl
      | false =>
          rcases Turn.exists_failure_of_fails succeeds with ⟨failure, raised⟩
          rw [raised] at first
          rw [runFrom_cons_of_fails first, Turn.reached_cons_of_fails succeeds]
          refine ⟨store, ?_⟩
          simp only [left, Turn.lastCommand_cons, Turn.lastCommand_nil, List.length_singleton,
            List.drop_one]
          rfl

end Runner

end BuildSteps
