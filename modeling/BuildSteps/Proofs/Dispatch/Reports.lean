import BuildSteps.Proofs.Dispatch.Rounds

/-!
# The reports of dispatches

The telemetry of a sequence of dispatches tells which processes were started and how they ended.
What is due for a process is written down from the way it ended, without a look at the runner: the
name of an event and an exit status, or nothing if the process ended by a fault that passes through.
A sink that keeps what it is sent, even when it then raises a fault, holds at the end what is due
for the processes of all dispatches, in order.

A single run sends what is due for its own turn (`Runner.kept_run`). The reached turns of a run of
steps follow by induction on the steps, and the rounds by induction on the names.
-/

namespace BuildSteps

/-- A record as telemetry is sent it: the name of an event, and fields. -/
structure Report where
  event : String
  fields : List (String × Value)

/-- The exit status in a report. -/
def Report.exitCode? (report : Report) : Option Value :=
  report.fields.lookup "exit_code"

/-- What is sent for an emission. -/
def Emission.report (emission : Emission) : Report :=
  ⟨emission.event.name, emission.fields⟩

/-- The event and the exit status that are due for the end of a process. -/
def Outcome.due? : Outcome → Option (String × Int)
  | .exited returnCode =>
    if returnCode = 0 then some ("toolchain.success", 0)
    else if 0 < returnCode then some ("toolchain.failure", returnCode)
    else some ("toolchain.failure", 128 + (returnCode.natAbs : Int))
  | .raised fault =>
    match fault.kind with
    | .missingFile => some ("toolchain.not_found", 127)
    | .interrupt => some ("toolchain.interrupted", 130)
    | _ => none

/-- The report that is due for a process. -/
def Spawn.report? (spawn : Spawn) : Option Report :=
  spawn.attempt.outcome.due?.map fun due =>
    { event := due.1
      fields :=
        [("command", .text (" ".intercalate spawn.command)),
          ("duration_ms", .float (Decimal.roundPlaces 2 (spawn.attempt.duration * 1000))),
          ("exit_code", .int due.2)] }

/-- A sink keeps the reports if each one that is sent is the next that its state holds, whether a
fault is raised or not. -/
def Sink.Keeps {State : Type} (sink : Sink State) (kept : State → List Report) : Prop :=
  ∀ emission store, kept (sink.send emission store).2 = kept store ++ [emission.report]

/-- A process that returned is due a success for the status 0 and a failure for any other. -/
theorem Outcome.due?_exited (returnCode : Int) :
    (Outcome.exited returnCode).due? =
      some (if exitStatus returnCode = 0 then "toolchain.success" else "toolchain.failure",
        exitStatus returnCode) := by
  by_cases zero : returnCode = 0
  · subst zero
    rfl
  · by_cases positive : 0 < returnCode
    · have status : exitStatus returnCode = returnCode := if_neg (by omega)
      rw [status, if_neg zero]
      simp only [due?, if_neg zero, if_pos positive]
    · have status : exitStatus returnCode = 128 + (returnCode.natAbs : Int) := by
        rw [exitStatus, if_pos (by omega)]
        omega
      rw [status, if_neg (by omega)]
      simp only [due?, if_neg zero, if_neg positive]

/-- Every outcome with a status is due a report of that status. -/
theorem Outcome.due?_of_status {outcome : Outcome} {status : Int}
    (ended : outcome.status = .ok status) : ∃ event, outcome.due? = some (event, status) := by
  cases outcome with
  | exited returnCode =>
      rw [Outcome.status_exited, Except.ok.injEq] at ended
      rw [due?_exited, ended]
      exact ⟨_, rfl⟩
  | raised fault =>
      simp only [Outcome.status] at ended
      split at ended
      · rename_i missing
        cases ended
        simp only [due?, missing]
        exact ⟨_, rfl⟩
      · rename_i interrupt
        cases ended
        simp only [due?, interrupt]
        exact ⟨_, rfl⟩
      · cases ended

namespace Runner

variable {State : Type} {sink : Sink State} {kept : State → List Report}

/-- What a runner hands on is what is due for the outcome. -/
theorem due?_of_handled {invocation : Invocation} {attempt : Attempt} {handling : Handling}
    (handled : handle invocation attempt = .ok handling) :
    attempt.outcome.due? = some (handling.event.name, handling.exitCode) := by
  unfold handle at handled
  cases outcome : attempt.outcome with
  | exited returnCode =>
      simp only [outcome] at handled
      rw [Outcome.due?_exited]
      split at handled
      · rename_i zero
        cases handled
        rw [if_pos zero, zero]
        rfl
      · rename_i nonzero
        cases handled
        rw [if_neg nonzero]
        rfl
  | raised fault =>
      simp only [outcome] at handled
      split at handled
      · rename_i missing
        cases handled
        simp only [Outcome.due?, missing]
        rfl
      · rename_i interrupt
        cases handled
        simp only [Outcome.due?, interrupt]
        rfl
      · cases handled

/-- Nothing is due for a fault that passes. -/
theorem due?_of_passed {invocation : Invocation} {attempt : Attempt} {fault : Fault}
    (passed : handle invocation attempt = .error fault) : attempt.outcome.due? = none := by
  unfold handle at passed
  cases outcome : attempt.outcome with
  | exited returnCode =>
      simp only [outcome] at passed
      split at passed <;> cases passed
  | raised raised =>
      simp only [outcome] at passed
      cases kind : raised.kind with
      | missingFile | interrupt =>
          simp only [kind] at passed
          cases passed
      | _ => simp only [Outcome.due?, kind]

/-- One more report is kept after a report, also if its sink raised a fault. -/
theorem kept_report (keeps : sink.Keeps kept) (emission : Emission) (handling : Handling)
    (session : Session State) :
    kept (report sink emission handling session).session.store =
      kept session.store ++ [emission.report] := by
  rw [← keeps emission session.store]
  unfold report
  split
  · rename_i store sent
    rw [sent]
  · rename_i fault store sent
    rw [sent]
    split <;> rfl

/-- A run sends what is due for its turn. -/
theorem kept_run (keeps : sink.Keeps kept) (step : Invocation) (session : Session State) :
    kept (run sink step session).session.store =
      kept session.store ++ [(turn step session).spawn].filterMap Spawn.report? := by
  cases handled : handle step (nextAttempt session) with
  | ok handling =>
      have due : (turn step session).spawn.report? =
          some ((turn step session).emission handling).report := by
        simp only [Spawn.report?, Turn.spawn, turn, due?_of_handled handled, Option.map_some]
        rfl
      rw [run_of_handled handled, List.filterMap_cons_some due, List.filterMap_nil]
      exact kept_report keeps _ handling (started session step)
  | error fault =>
      have nothing : (turn step session).spawn.report? = none := by
        simp only [Spawn.report?, Turn.spawn, turn, due?_of_passed handled, Option.map_none]
      rw [run_of_passed handled, List.filterMap_cons_none nothing, List.filterMap_nil,
        List.append_nil]
      rfl

/-- The reports kept by a run of steps are those due for the processes it started, in their order.
-/
theorem kept_runFrom (tolerated : sink.Tolerated) (keeps : sink.Keeps kept) (index : Nat)
    (steps : List Invocation) (session : Session State) :
    kept (runFrom sink index steps session).session.store =
      kept session.store ++
        ((Turn.reached (Turn.schedule steps session.attempts)).map Turn.spawn).filterMap
          Spawn.report? := by
  induction steps generalizing index session with
  | nil => simp [runFrom, Turn.schedule, Turn.reached, Turn.firstFailing?]
  | cons step rest ih =>
      have first := result_run tolerated step session
      have sent := kept_run keeps step session
      rcases session_run tolerated step session with ⟨store, left⟩
      rw [schedule_cons]
      cases succeeds : (turn step session).succeeds with
      | true =>
          rw [Turn.result_of_succeeds succeeds] at first
          rw [runFrom_cons_of_succeeds first, Turn.reached_cons_of_succeeds succeeds, ih, sent,
            left, List.append_assoc, ← List.filterMap_append]
          rfl
      | false =>
          rcases Turn.exists_failure_of_fails succeeds with ⟨failure, raised⟩
          rw [raised] at first
          rw [runFrom_cons_of_fails first, Turn.reached_cons_of_fails succeeds, sent]
          rfl

end Runner

namespace Turn

theorem report?_of_status {turn : Turn} {status : Int}
    (ended : turn.attempt.outcome.status = .ok status) :
    ∃ report, turn.spawn.report? = some report ∧ report.exitCode? = some (.int status) := by
  rcases Outcome.due?_of_status ended with ⟨event, due⟩
  simp only [Spawn.report?, spawn, due, Option.map_some]
  exact ⟨_, rfl, rfl⟩

theorem report?_of_succeeds {turn : Turn} (succeeds : turn.succeeds = true) :
    ∃ report, turn.spawn.report? = some report ∧ report.event = "toolchain.success" := by
  have zero : turn.attempt.outcome = .exited 0 := by simpa [Turn.succeeds] using succeeds
  simp only [Spawn.report?, spawn, zero, Outcome.due?, if_true, Option.map_some]
  exact ⟨_, rfl, rfl⟩

/-- Turns that all succeed are each reported, as successes. -/
theorem reports_of_succeed {turns : List Turn} (succeed : ∀ turn ∈ turns, turn.succeeds = true) :
    ((turns.map spawn).filterMap Spawn.report?).length = turns.length ∧
      ∀ report ∈ (turns.map spawn).filterMap Spawn.report?,
        report.event = "toolchain.success" := by
  induction turns with
  | nil => simp
  | cons turn rest ih =>
      rcases report?_of_succeeds (succeed turn (List.mem_cons_self ..)) with ⟨report, due, event⟩
      rcases ih (fun later occurs => succeed later (List.mem_cons_of_mem _ occurs)) with
        ⟨length, successes⟩
      rw [List.map_cons, List.filterMap_cons_some due]
      refine ⟨by rw [List.length_cons, List.length_cons, length], ?_⟩
      intro occurring occurs
      rcases List.mem_cons.mp occurs with rfl | later
      · exact event
      · exact successes occurring later

/-- A status comes from the last turn reached, and all turns before it succeeded. -/
theorem reached_of_verdict {turns : List Turn} {status : Int}
    (comesTo : verdict turns = .ok status) (nonempty : reached turns ≠ []) :
    ∃ earlier last, reached turns = earlier ++ [last] ∧
      (∀ turn ∈ earlier, turn.succeeds = true) ∧
      last.attempt.outcome.status = .ok status := by
  -- Without a failing turn the last one closes the run, and its status is zero as well.
  cases found : firstFailing? turns with
  | none =>
      rw [reached_eq_self found] at nonempty ⊢
      have allSucceed := firstFailing?_eq_none_iff.mp found
      rcases List.eq_nil_or_concat turns with empty | ⟨earlier, last, parts⟩
      · exact absurd empty nonempty
      · rw [List.concat_eq_append] at parts
        subst parts
        refine ⟨earlier, last, rfl, ?_, ?_⟩
        · intro turn occurs
          simp [succeeds, allSucceed turn (List.mem_append_left _ occurs)]
        · simp only [verdict, found, Except.ok.injEq] at comesTo
          rw [allSucceed last (by simp), ← comesTo]
          rfl
  | some turn =>
      refine ⟨turns.takeWhile succeeds, turn, by simp [reached, found], ?_, ?_⟩
      · intro earlier occurs
        exact List.all_eq_true.mp List.all_takeWhile earlier occurs
      · cases ended : turn.attempt.outcome.status with
        | ok exitCode =>
            rw [verdict_of_status found ended, Except.ok.injEq] at comesTo
            rw [comesTo]
        | error fault =>
            rw [verdict_of_fault found ended] at comesTo
            cases comesTo

/-- If turns come to a status, each reached one is reported. The last report carries the status, and
all earlier ones are of successes. -/
theorem reports_of_verdict {turns : List Turn} {status : Int}
    (comesTo : verdict turns = .ok status) (nonempty : reached turns ≠ []) :
    ∃ earlier last, ((reached turns).map spawn).filterMap Spawn.report? = earlier ++ [last] ∧
      (earlier ++ [last]).length = (reached turns).length ∧
      last.exitCode? = some (.int status) ∧
      ∀ report ∈ earlier, report.event = "toolchain.success" := by
  rcases reached_of_verdict comesTo nonempty with ⟨before, closing, parts, succeed, ended⟩
  rcases reports_of_succeed succeed with ⟨length, successes⟩
  rcases report?_of_status ended with ⟨last, due, exitCode⟩
  refine ⟨_, last, ?_, ?_, exitCode, successes⟩
  · simp [parts, due]
  · rw [parts, List.length_append, List.length_append, length]
    rfl

end Turn

namespace Dispatcher

variable {State : Type} {sink : Sink State} {kept : State → List Report}

/-- The reports kept by a dispatch are those due for the processes it started. -/
theorem kept_dispatch (dispatcher : Dispatcher) (tolerated : sink.Tolerated)
    (keeps : sink.Keeps kept) (name : Option String) (session : Session State) :
    kept (dispatcher.dispatch sink name session).session.store =
      kept session.store ++
        (Spawn.ofTrace (dispatcher.dispatch sink name session).trace session.attempts).filterMap
          Spawn.report? := by
  rcases resolved : dispatcher.stepsFor name with ⟨looked, records⟩
  cases looked with
  | ok steps =>
      rw [ofTrace_dispatch tolerated resolved, dispatch_of_resolved resolved, session_conclude]
      exact Runner.kept_runFrom tolerated keeps 1 steps session
  | error failure =>
      rw [dispatch_of_refused resolved, Spawn.ofTrace, Observation.commands_logged]
      simp [Spawn.pair]

/-- The reports of a dispatch that starts a process and comes to a status. -/
theorem reports_dispatch (dispatcher : Dispatcher) (tolerated : sink.Tolerated)
    (name : Option String) (session : Session State) {status : Int}
    (comesTo : (dispatcher.dispatch sink name session).result = .ok status)
    (started : Observation.commands (dispatcher.dispatch sink name session).trace ≠ []) :
    ∃ earlier last,
      (Spawn.ofTrace (dispatcher.dispatch sink name session).trace session.attempts).filterMap
          Spawn.report? = earlier ++ [last] ∧
        (earlier ++ [last]).length =
          (Observation.commands (dispatcher.dispatch sink name session).trace).length ∧
        last.exitCode? = some (.int status) ∧
        ∀ report ∈ earlier, report.event = "toolchain.success" := by
  rcases resolved : dispatcher.stepsFor name with ⟨looked, records⟩
  cases looked with
  | ok steps =>
      rw [result_dispatch tolerated resolved] at comesTo
      rw [commands_dispatch tolerated resolved] at started ⊢
      rw [ofTrace_dispatch tolerated resolved, List.length_map]
      apply Turn.reports_of_verdict comesTo
      simpa using started
  | error failure =>
      rw [dispatch_of_refused resolved] at comesTo
      cases comesTo

/-- The reports kept by rounds are those due for all processes started, in their order. -/
theorem kept_rounds (dispatcher : Dispatcher) (tolerated : sink.Tolerated)
    (keeps : sink.Keeps kept) (names : List (Option String)) (session : Session State) :
    let rounds := dispatcher.rounds sink names session
    kept (Round.left rounds session).store =
      kept session.store ++
        (Spawn.ofTrace (Round.trace rounds) session.attempts).filterMap Spawn.report? := by
  induction names generalizing session with
  | nil => exact (List.append_nil _).symm
  | cons name rest ih =>
      have first := dispatcher.kept_dispatch tolerated keeps name session
      have others := ih (dispatcher.dispatch sink name session).session
      simp only [rounds, Round.left_cons, Round.trace_cons, Spawn.ofTrace_append,
        List.filterMap_append]
      rw [← attempts_dispatch dispatcher tolerated, others, first, List.append_assoc]

/-- Telemetry that keeps what it is sent holds, after dispatches of any names, exactly what is due
for the processes that they started, in order. If a dispatch starts a process and comes to a
status, it reports each process that it started; the last report carries that status, and all
earlier ones are of successes. -/
theorem rounds_reported (dispatcher : Dispatcher) {sink : Sink State} (tolerated : sink.Tolerated)
    {kept : State → List Report} (keeps : sink.Keeps kept) (names : List (Option String))
    (session : Session State) :
    let rounds := dispatcher.rounds sink names session
    kept (Round.left rounds session).store =
        kept session.store ++
          (Spawn.ofTrace (Round.trace rounds) session.attempts).filterMap Spawn.report? ∧
      ∀ round ∈ rounds, ∃ reports,
        kept round.effect.session.store = kept round.found.store ++ reports ∧
        ∀ status, round.effect.result = .ok status →
          Observation.commands round.effect.trace ≠ [] →
            reports.length = (Observation.commands round.effect.trace).length ∧
            ∃ earlier last, reports = earlier ++ [last] ∧
              last.exitCode? = some (.int status) ∧
              ∀ report ∈ earlier, report.event = "toolchain.success" := by
  intro rounds
  refine ⟨dispatcher.kept_rounds tolerated keeps names session, ?_⟩
  intro round occurs
  rw [effect_of_mem_rounds occurs]
  refine ⟨_, dispatcher.kept_dispatch tolerated keeps round.name round.found, ?_⟩
  intro status comesTo started
  rcases dispatcher.reports_dispatch tolerated round.name round.found comesTo started with
    ⟨earlier, last, parts, length, exitCode, successes⟩
  rw [parts]
  exact ⟨length, earlier, last, rfl, exitCode, successes⟩

/-- The sink refuses all that it keeps. The second step of the first dispatch is killed by a signal,
the second dispatch has no steps, and the program of the third one cannot be found. -/
theorem rounds_reported_refused :
    let sink : Sink (List Report) :=
      ⟨fun emission store => (.error ⟨.telemetry, "full"⟩, store ++ [emission.report])⟩
    let table : Table := ⟨[(some "build", [⟨"make", ["all"]⟩, ⟨"make", ["check"]⟩,
      ⟨"make", ["doc"]⟩]), (some "doc", [⟨"tidy", []⟩])]⟩
    let names := [some "build", none, some "doc"]
    let attempts : List Attempt := [{}, { outcome := .exited (-9) },
      { outcome := .raised ⟨.missingFile, "tidy"⟩ }]
    let rounds := Dispatcher.rounds { table := table } sink names ⟨attempts, none, []⟩
    sink.Tolerated ∧ sink.Keeps id ∧
      ((Round.left rounds ⟨attempts, none, []⟩).store.map fun report =>
        (report.event, report.exitCode?)) =
          [("toolchain.success", some (.int 0)), ("toolchain.failure", some (.int 137)),
            ("toolchain.not_found", some (.int 127))] ∧
      (rounds.map fun round => round.effect.result) = [.ok 137, .ok 0, .ok 127] := by
  intro sink table names attempts rounds
  have tolerated : sink.Tolerated := by
    intro emission store fault raised
    cases raised
    rfl
  have keeps : sink.Keeps id := by
    intro emission store
    rfl
  have kept := (rounds_reported { table := table } tolerated keeps names ⟨attempts, none, []⟩).1
  refine ⟨tolerated, keeps, ?_, rfl⟩
  rw [show (Round.left rounds ⟨attempts, none, []⟩).store = _ from kept]
  rfl

end Dispatcher

end BuildSteps
