import BuildSteps.Proofs.Dispatch.Status
import BuildSteps.Telemetry.Client

/-!
# Dispatches do not depend on telemetry or on what went before

A client of the telemetry raises telemetry faults only, whatever its directory is and whatever
stands in the file tree: the fields that the runner sends are never named like an argument of the
call. So the closed form of a dispatch applies to it, and in that form neither the sink nor its
state nor the last command occurs. Two dispatches of a name that find the same processes therefore
come to the same result, start the same commands and, apart from the records of lost telemetry, log
the same records.
-/

namespace BuildSteps

/-- Whether a log record is, for a reader of the log, one of lost telemetry. -/
def LogRecord.tellsLoss (record : LogRecord) : Bool :=
  decide (record.level = .debug) && decide (record.source = .toolchain) &&
    "Telemetry write failed: ".toList.isPrefixOf record.message.toList

namespace Observation

theorem isPrefixOf_append (opening text : String) :
    opening.toList.isPrefixOf (opening ++ text).toList = true := by
  rw [String.toList_append, List.isPrefixOf_iff_prefix]
  exact List.prefix_append _ _

/-- Readers of the log tell the records of lost telemetry apart from all others. -/
theorem tellsLoss_eq_isLoss (record : LogRecord) :
    record.tellsLoss = (Observation.logged record).isLoss := by
  cases record with
  | telemetryLost text =>
      have told : (LogRecord.telemetryLost text).tellsLoss = true := by
        simp only [LogRecord.tellsLoss, Bool.and_eq_true, decide_eq_true_eq]
        exact ⟨⟨rfl, rfl⟩, isPrefixOf_append "Telemetry write failed: " text⟩
      exact told
  | _ => rfl

theorem records_withoutLosses (trace : List Observation) :
    records (withoutLosses trace) = (records trace).filter fun record => !record.tellsLoss := by
  induction trace with
  | nil => rfl
  | cons first rest ih =>
      cases first with
      | logged record =>
          cases loss : (Observation.logged record).isLoss with
          | true =>
              have told := tellsLoss_eq_isLoss record
              rw [withoutLosses_cons_of_isLoss loss, ih]
              simp [records, record?, told, loss]
          | false =>
              have told := tellsLoss_eq_isLoss record
              rw [withoutLosses_cons_of_not_isLoss loss]
              simp only [records] at ih
              simp [records, record?, told, loss, ih]
      | started command => exact ih
      | emitted emission => exact ih

end Observation

namespace Runner

variable {State : Type} {sink : Sink State}

/-- With a silent sink a step is observed as its turn alone. -/
theorem trace_run_of_silent (silent : sink.Silent) (step : Invocation) (session : Session State) :
    (run sink step session).trace = (turn step session).trace := by
  cases handled : handle step (nextAttempt session) with
  | ok handling =>
      have sent := silent ((turn step session).emission handling) (started session step).store
      rw [run_of_handled handled]
      simp only [Turn.trace, turn, handled, reported, report] at sent ⊢
      split
      · rfl
      · rename_i fault store failed
        rw [failed] at sent
        cases sent
  | error fault =>
      rw [run_of_passed handled]
      simp only [Turn.trace, turn, handled]
      rfl

/-- With a silent sink no loss is logged by a run of steps. -/
theorem withoutLosses_runFrom_of_silent (silent : sink.Silent) (index : Nat)
    (steps : List Invocation) (session : Session State) :
    Observation.withoutLosses (runFrom sink index steps session).trace =
      (runFrom sink index steps session).trace := by
  induction steps generalizing index session with
  | nil => rfl
  | cons step rest ih =>
      have plain : (Observation.logged (.step index step)).isLoss = false := rfl
      have first : Observation.withoutLosses (run sink step session).trace =
          (run sink step session).trace := by
        rw [withoutLosses_run silent.tolerated, trace_run_of_silent silent]
      cases ran : (run sink step session).result with
      | ok done =>
          rw [runFrom_cons_of_succeeds ran, List.cons_append,
            Observation.withoutLosses_cons_of_not_isLoss plain, Observation.withoutLosses_append,
            first, ih]
      | error failure =>
          rw [runFrom_cons_of_fails ran, Observation.withoutLosses_cons_of_not_isLoss plain, first]

end Runner

namespace TelemetryClient

theorem reservedField?_fields (emission : Emission) : reservedField? emission.fields = none := by
  simp [reservedField?, Emission.fields]

/-- A client raises telemetry faults only. -/
theorem tolerated_sink (client : TelemetryClient) (now : Int) : (client.sink now).Tolerated := by
  intro emission files fault raised
  simp only [sink, emit, reservedField?_fields] at raised
  split at raised
  · cases raised
  · rename_i error partly failed
    cases raised
    split at failed
    · cases failed
    · split at failed
      · cases failed
        rfl
      · split at failed
        · cases failed
        · cases failed
          rfl

theorem silent_sink_of_disabled {client : TelemetryClient} (disabled : client.directory = none)
    (now : Int) : (client.sink now).Silent := by
  intro emission files
  simp only [sink, emit, reservedField?_fields, enabled, disabled, Option.isSome_none, if_true]

end TelemetryClient

namespace Dispatcher

/-- A dispatch that was made before: its name, the processes that it found, and its instant. -/
structure Episode where
  name : Option String
  attempts : List Attempt
  now : Int

/-- The session that dispatches leave, made one after another with a client. -/
def sessionAfter (dispatcher : Dispatcher) (client : TelemetryClient) :
    List Episode → Session FileTree → Session FileTree
  | [], session => session
  | episode :: rest, session =>
    let found := { session with attempts := episode.attempts }
    sessionAfter dispatcher client rest
      (dispatcher.dispatch (client.sink episode.now) episode.name found).session

section Agreement

variable {LeftState RightState : Type} {leftSink : Sink LeftState} {rightSink : Sink RightState}

/-- Dispatches that find the same processes agree, whatever else their sessions hold. -/
theorem dispatch_agree (dispatcher : Dispatcher) (leftTolerated : leftSink.Tolerated)
    (rightTolerated : rightSink.Tolerated) (name : Option String) (left : Session LeftState)
    (right : Session RightState) (found : left.attempts = right.attempts) :
    (dispatcher.dispatch leftSink name left).result =
        (dispatcher.dispatch rightSink name right).result ∧
      Observation.withoutLosses (dispatcher.dispatch leftSink name left).trace =
        Observation.withoutLosses (dispatcher.dispatch rightSink name right).trace := by
  rcases resolved : dispatcher.stepsFor name with ⟨looked, records⟩
  cases looked with
  | ok steps =>
      rw [result_dispatch leftTolerated resolved, result_dispatch rightTolerated resolved,
        withoutLosses_dispatch leftTolerated resolved,
        withoutLosses_dispatch rightTolerated resolved, found]
      exact ⟨rfl, rfl⟩
  | error failure =>
      rw [dispatch_of_refused resolved, dispatch_of_refused resolved]
      exact ⟨rfl, rfl⟩

end Agreement

/-- Looking a name up logs no loss. -/
theorem withoutLosses_lookup {dispatcher : Dispatcher} {name : Option String}
    {looked : Except Failure (List Invocation)} {records : List LogRecord}
    (resolved : dispatcher.stepsFor name = (looked, records)) :
    Observation.withoutLosses (records.map .logged) = records.map .logged := by
  simp only [stepsFor, unlistedSteps] at resolved
  split at resolved
  · cases resolved
    rfl
  · split at resolved
    · cases resolved
      rfl
    · cases resolved
      rfl
    · split at resolved
      · cases resolved
        rfl
      · split at resolved
        · cases resolved
          rfl
        · cases resolved
          rfl

/-- With a silent sink no loss is logged by a dispatch. -/
theorem withoutLosses_dispatch_of_silent {State : Type} {sink : Sink State}
    (dispatcher : Dispatcher) (silent : sink.Silent) (name : Option String)
    (session : Session State) :
    Observation.withoutLosses (dispatcher.dispatch sink name session).trace =
      (dispatcher.dispatch sink name session).trace := by
  rcases resolved : dispatcher.stepsFor name with ⟨looked, records⟩
  have lookup := withoutLosses_lookup resolved
  cases looked with
  | ok steps =>
      have ran := Runner.withoutLosses_runFrom_of_silent silent 1 steps session
      rw [← Runner.runSteps] at ran
      rw [dispatch_of_resolved resolved, Observation.withoutLosses_append, lookup]
      simp only [conclude]
      split
      · rw [ran]
      · split
        · rw [Observation.withoutLosses_append, ran]
          rfl
        · rw [ran]
  | error failure => rw [dispatch_of_refused resolved, lookup]

/-- A dispatch comes to the same result, starts the same commands and logs the same records, those
of lost telemetry left out, as the first dispatch of a dispatcher without telemetry. Neither the
client, nor the dispatches made before, nor the files that are found have a part in it. -/
theorem dispatch_independent (dispatcher : Dispatcher) (client : TelemetryClient)
    (history : List Episode) (start : Session FileTree) (files : FileTree)
    (attempts : List Attempt) (now : Int) (name : Option String) :
    let before := dispatcher.sessionAfter client history start
    let observed := dispatcher.dispatch (client.sink now) name
      { before with attempts := attempts, store := files }
    let fresh := dispatcher.dispatch (TelemetryClient.sink { directory := none } now) name
      ⟨attempts, none, files⟩
    observed.result = fresh.result ∧
      Observation.commands observed.trace = Observation.commands fresh.trace ∧
      ((Observation.records observed.trace).filter fun record => !record.tellsLoss) =
        Observation.records fresh.trace := by
  intro before observed fresh
  have silent : (TelemetryClient.sink { directory := none } now).Silent :=
    TelemetryClient.silent_sink_of_disabled rfl now
  rcases dispatcher.dispatch_agree (client.tolerated_sink now) silent.tolerated name
    { before with attempts := attempts, store := files } ⟨attempts, none, files⟩ rfl with
    ⟨result, trace⟩
  have lossless := dispatcher.withoutLosses_dispatch_of_silent silent name ⟨attempts, none, files⟩
  refine ⟨result, ?_, ?_⟩
  · rw [← Observation.commands_withoutLosses, trace, Observation.commands_withoutLosses]
  · rw [← Observation.records_withoutLosses, trace, lossless]

end Dispatcher

end BuildSteps
