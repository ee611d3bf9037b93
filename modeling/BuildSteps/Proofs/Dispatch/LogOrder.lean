import Mathlib.Data.List.Basic
import BuildSteps.Proofs.Dispatch.Rounds
import BuildSteps.Proofs.Turn.Brackets

/-!
# The log of dispatches

Nothing that a process or telemetry does is logged as a warning: a warning is only ever about a name
that the table does not list. Every process is logged between its announcement and its end, and the
end of a subcommand is logged behind the ends of all its processes if it has a status other than
zero.

The records of a dispatch are those of the look-up, those of the run, and that of the failure. Those
of the run are plain, so the other two decide what is logged as a warning and what as the end of the
subcommand.
-/

namespace BuildSteps

namespace Turn

variable {turns : List Turn} {name : Option String}

/-- If turns come to a status other than zero, that is logged with the command that failed. -/
theorem closing_of_status {status : Int} (comesTo : verdict turns = .ok status)
    (nonzero : status ≠ 0) (name : Option String) :
    ∃ failure, closing name turns = [.logged (.stopped name failure)] ∧
      failure.exitCode? = some status ∧
      failure.command? = (reached turns).getLast?.map fun turn => turn.invocation.argv := by
  cases found : firstFailing? turns with
  | none =>
      simp only [verdict, found, Except.ok.injEq] at comesTo
      exact absurd comesTo.symm nonzero
  | some turn =>
      rcases (outcome_raises_iff turn.invocation.argv status).mpr
        ⟨nonzero, comesTo, turn, found, rfl⟩ with ⟨failure, raised, command, exitCode⟩
      refine ⟨failure, ?_, exitCode, ?_⟩
      · simp only [closing, raised, exitCode, Option.isSome_some, if_true]
      · rw [command, getLast?_reached found]
        rfl

theorem closing_of_no_status (none_fails : ∀ status, verdict turns = .ok status → status = 0) :
    closing name turns = [] := by
  cases found : firstFailing? turns with
  | none => simp only [closing, outcome, found]
  | some turn =>
      cases ended : turn.attempt.outcome.status with
      | ok status =>
          have zero := none_fails status (verdict_of_status found ended)
          exact absurd zero (status_ne_zero_of_fails (fails_of_firstFailing? found) ended)
      | error fault =>
          simp only [closing, outcome, found, result_of_fault ended, Failure.exitCode?]
          rfl

/-- At the end of turns nothing is logged, or that the subcommand was stopped. -/
theorem closing_cases (name : Option String) (turns : List Turn) :
    closing name turns = [] ∨
      ∃ failure, closing name turns = [.logged (.stopped name failure)] := by
  simp only [closing]
  split
  · exact Or.inl rfl
  · split
    · exact Or.inr ⟨_, rfl⟩
    · exact Or.inl rfl

end Turn

namespace Dispatcher

variable {State : Type} {sink : Sink State} {dispatcher : Dispatcher} {name : Option String}
  {steps : List Invocation} {records : List LogRecord} {known : List String}

/-- The warning about a name that is not listed, with the names that are. -/
def warning? (dispatcher : Dispatcher) (known : List String) : Option String → Option LogRecord
  | none => none
  | some word =>
    if dispatcher.strict = false ∧ word ≠ "" ∧ some word ∉ dispatcher.table.names then
      some (.unknownSubcommand word known)
    else none

theorem presentNames_some (known : List String) : presentNames (known.map some) = .ok known := by
  induction known with
  | nil => rfl
  | cons name rest ih => simp only [List.map_cons, presentNames, ih]

/-- Names of which one is absent are refused at the first absent one. -/
theorem presentNames_of_none_mem {names : List (Option String)} (absent : none ∈ names) :
    presentNames names = .error (names.idxOf none) := by
  induction names with
  | nil => cases absent
  | cons name rest ih =>
      cases name with
      | none => simp [presentNames]
      | some word =>
          simp only [presentNames, ih (by simpa using absent)]
          rw [List.idxOf_cons_ne _ (by simp)]

/-- A name has no steps iff it is not among the names of the table. -/
theorem steps?_eq_none_iff :
    dispatcher.table.steps? name = none ↔ name ∉ dispatcher.table.names := by
  rw [Table.steps?, List.lookup_eq_none_iff, Table.names]
  constructor
  · intro distinct occurs
    rcases List.mem_map.mp occurs with ⟨entry, listed, rfl⟩
    simpa using distinct entry listed
  · intro unlisted entry listed
    rw [bne_iff_ne]
    rintro rfl
    exact unlisted (List.mem_map_of_mem listed)

/-- How a name is looked up: it is listed, it is absent or empty, or it is unknown. -/
theorem stepsFor_cases (dispatcher : Dispatcher) (name : Option String) :
    (name ∈ dispatcher.table.names ∧ ∃ steps, dispatcher.table.steps? name = some steps ∧
        dispatcher.stepsFor name = (.ok steps, [])) ∨
      ((name = none ∨ name = some "") ∧ dispatcher.table.steps? name = none ∧
        dispatcher.stepsFor name = (.ok [], [.noSubcommand])) ∨
      ∃ word, name = some word ∧ word ≠ "" ∧ some word ∉ dispatcher.table.names ∧
        dispatcher.table.steps? name = none ∧
        dispatcher.stepsFor name =
          if dispatcher.strict then
            (.error (.ofUnknownName (some word) dispatcher.table.names), [])
          else match presentNames dispatcher.table.names with
            | .error position => (.error (.namelessEntry position), [])
            | .ok known => (.ok [], [.unknownSubcommand word known]) := by
  cases listed : dispatcher.table.steps? name with
  | some steps =>
      have occurs : name ∈ dispatcher.table.names := by
        apply Decidable.byContradiction
        intro unlisted
        rw [steps?_eq_none_iff.mpr unlisted] at listed
        cases listed
      exact Or.inl ⟨occurs, steps, rfl, stepsFor_of_listed listed⟩
  | none =>
      have whole : dispatcher.stepsFor name = dispatcher.unlistedSteps name := by
        simp only [stepsFor, listed]
      rw [whole]
      right
      cases name with
      | none => exact Or.inl ⟨Or.inl rfl, rfl, rfl⟩
      | some word =>
          by_cases empty : word = ""
          · subst empty
            exact Or.inl ⟨Or.inr rfl, rfl, rfl⟩
          · refine Or.inr ⟨word, rfl, empty, steps?_eq_none_iff.mp listed, rfl, ?_⟩
            cases present : presentNames dispatcher.table.names <;>
              simp only [unlistedSteps, present]

/-- The warnings of a look-up, if all listed names are present. -/
theorem severe_stepsFor (present : dispatcher.table.names = known.map some)
    (name : Option String) :
    (dispatcher.stepsFor name).2.filter LogRecord.isSevere =
      (dispatcher.warning? known name).toList := by
  rcases dispatcher.stepsFor_cases name with
    ⟨occurs, steps, -, resolved⟩ | ⟨rfl | rfl, -, resolved⟩ |
      ⟨word, rfl, nonempty, unlisted, -, resolved⟩
  · rw [resolved]
    cases name with
    | none => rfl
    | some word => simp [warning?, occurs]
  · rw [resolved]
    rfl
  · rw [resolved, warning?, if_neg (by simp)]
    rfl
  · rw [resolved]
    simp only [present, presentNames_some, warning?]
    cases strict : dispatcher.strict with
    | true => rfl
    | false =>
        rw [present] at unlisted
        simp only [nonempty, unlisted, not_false_eq_true, ne_eq, and_self, if_true]
        rfl

/-- An absent name that is listed leaves every unknown name without a warning and without steps. -/
theorem stepsFor_of_absent (absent : none ∈ dispatcher.table.names) (name : Option String) :
    (dispatcher.stepsFor name).2.filter LogRecord.isSevere = [] ∧
      ∀ word, name = some word → word ≠ "" → some word ∉ dispatcher.table.names →
        ∃ position, dispatcher.stepsFor name = (.error (.namelessEntry position), []) := by
  obtain ⟨position, refused⟩ :
      ∃ position, presentNames dispatcher.table.names = .error position :=
    ⟨_, presentNames_of_none_mem absent⟩
  rcases dispatcher.stepsFor_cases name with
    ⟨occurs, steps, -, resolved⟩ | ⟨empty, -, resolved⟩ |
      ⟨word, rfl, nonempty, unlisted, -, resolved⟩
  · rw [resolved]
    refine ⟨rfl, ?_⟩
    rintro word rfl - unlisted
    exact absurd occurs unlisted
  · rw [resolved]
    refine ⟨rfl, ?_⟩
    rintro word rfl nonempty -
    simp [nonempty] at empty
  · have whole : dispatcher.stepsFor (some word) = (.error (.namelessEntry position), []) := by
      rw [resolved]
      simp only [refused, Failure.ofUnknownName]
      split <;> rfl
    rw [whole]
    exact ⟨rfl, fun _ _ _ _ => ⟨position, rfl⟩⟩

/-- Looking a name up logs no stop. -/
theorem stops_stepsFor (dispatcher : Dispatcher) (name : Option String) :
    (dispatcher.stepsFor name).2.filter LogRecord.tellsStop = [] := by
  rcases dispatcher.stepsFor_cases name with
    ⟨-, steps, -, resolved⟩ | ⟨-, -, resolved⟩ | ⟨word, rfl, -, -, -, resolved⟩
  · rw [resolved]
    rfl
  · rw [resolved]
    rfl
  · rw [resolved]
    split
    · rfl
    · split <;> rfl

/-- A dispatch is observed as the records of the look-up, the run of its steps and what closes it.
-/
theorem trace_dispatch (tolerated : sink.Tolerated)
    (resolved : dispatcher.stepsFor name = (.ok steps, records)) (session : Session State) :
    (dispatcher.dispatch sink name session).trace =
      records.map .logged ++ ((Runner.runSteps sink steps session).trace ++
        Turn.closing name (Turn.schedule steps session.attempts)) := by
  rw [dispatch_of_resolved resolved]
  have outcome := Runner.result_runFrom tolerated 1 steps session
  rw [← Runner.runSteps] at outcome
  cases ran : (Runner.runSteps sink steps session).result with
  | ok done =>
      rw [ran] at outcome
      simp only [conclude, ran, Turn.closing, ← outcome, List.append_nil]
  | error failure =>
      rw [ran] at outcome
      simp only [conclude, ran, Turn.closing, ← outcome]
      cases failure.exitCode? with
      | some exitCode => simp
      | none => simp

/-- Only the look-up of a dispatch logs a warning. -/
theorem severe_dispatch (dispatcher : Dispatcher) (tolerated : sink.Tolerated)
    (name : Option String) (session : Session State) :
    (Observation.records (dispatcher.dispatch sink name session).trace).filter
        LogRecord.isSevere =
      (dispatcher.stepsFor name).2.filter LogRecord.isSevere := by
  rcases resolved : dispatcher.stepsFor name with ⟨looked, records⟩
  cases looked with
  | ok steps =>
      have plain := Runner.isPlain_runFrom tolerated 1 steps session
      rw [trace_dispatch tolerated resolved, Observation.records_append,
        Observation.records_logged, Observation.records_append, List.filter_append,
        List.filter_append, Runner.runSteps, (LogRecord.filter_of_plain plain).1]
      rcases Turn.closing_cases name (Turn.schedule steps session.attempts) with
        nothing | ⟨failure, stop⟩
      · rw [nothing]
        simp [Observation.records]
      · rw [stop]
        have mild : (LogRecord.stopped name failure).isSevere = false := rfl
        simp [Observation.records, Observation.record?, mild]
  | error failure => rw [dispatch_of_refused resolved, Observation.records_logged]

/-- The warnings of all rounds are those of their look-ups, in the order of the names. -/
theorem severe_rounds (dispatcher : Dispatcher) (tolerated : sink.Tolerated)
    (names : List (Option String)) (session : Session State) :
    (Observation.records (Round.trace (dispatcher.rounds sink names session))).filter
        LogRecord.isSevere =
      names.flatMap fun name => (dispatcher.stepsFor name).2.filter LogRecord.isSevere := by
  induction names generalizing session with
  | nil => rfl
  | cons name rest ih =>
      simp only [rounds, Round.trace_cons, Observation.records_append, List.filter_append,
        List.flatMap_cons, ih, dispatcher.severe_dispatch tolerated]

/-- A name that is not listed starts no process. -/
theorem unstarted_of_unlisted (tolerated : sink.Tolerated)
    (unlisted : dispatcher.table.steps? name = none) (session : Session State) :
    Observation.commands (dispatcher.dispatch sink name session).trace = [] := by
  rcases resolved : dispatcher.stepsFor name with ⟨looked, records⟩
  cases looked with
  | ok steps =>
      have noSteps : steps = [] := by
        rcases dispatcher.stepsFor_cases name with
          ⟨-, steps, listed, -⟩ | ⟨-, -, found⟩ | ⟨word, rfl, -, -, -, found⟩
        · rw [unlisted] at listed
          cases listed
        · rw [resolved] at found
          cases found
          rfl
        · rw [resolved] at found
          split at found
          · cases found
          · split at found <;> cases found
            rfl
      rw [commands_dispatch tolerated resolved, noSteps]
      rfl
  | error failure => rw [dispatch_of_refused resolved, Observation.commands_logged]

/-- Each process that a dispatch starts stands between the record that announces it and the one
that tells its end. -/
theorem bracketed_dispatch (dispatcher : Dispatcher) (tolerated : sink.Tolerated)
    (name : Option String) (session : Session State) :
    Turn.Bracketed
      (Turn.schedule ((dispatcher.table.steps? name).getD []) session.attempts) 1
      (dispatcher.dispatch sink name session).trace := by
  cases listed : dispatcher.table.steps? name with
  | some steps =>
      have quiet : (Observation.records (Turn.closing name
          (Turn.schedule steps session.attempts))).filter LogRecord.tellsEnd = [] := by
        rcases Turn.closing_cases name (Turn.schedule steps session.attempts) with
          nothing | ⟨failure, stop⟩
        · rw [nothing]
          rfl
        · rw [stop]
          rfl
      rw [trace_dispatch tolerated (stepsFor_of_listed listed)]
      exact (Runner.bracketed_runFrom tolerated 1 steps session
        (Turn.commands_closing name _) quiet).2
  | none => exact Turn.bracketed_of_unstarted (unstarted_of_unlisted tolerated listed session)

/-- Only the conclusion of a dispatch tells the end of the subcommand. -/
theorem tellsStop_dispatch (tolerated : sink.Tolerated)
    (resolved : dispatcher.stepsFor name = (.ok steps, records)) (session : Session State) :
    (Observation.records (dispatcher.dispatch sink name session).trace).filter
        LogRecord.tellsStop =
      (Observation.records (Turn.closing name
        (Turn.schedule steps session.attempts))).filter LogRecord.tellsStop := by
  have lookup := dispatcher.stops_stepsFor name
  have plain := Runner.isPlain_runFrom tolerated 1 steps session
  rw [resolved] at lookup
  rw [trace_dispatch tolerated resolved, Observation.records_append, Observation.records_logged,
    Observation.records_append, List.filter_append, List.filter_append, lookup, Runner.runSteps,
    (LogRecord.filter_of_plain plain).2, List.nil_append, List.nil_append]

/-- The end of a subcommand is told once, as the last record, if its status is not zero. -/
theorem stops_dispatch (dispatcher : Dispatcher) (tolerated : sink.Tolerated)
    (name : Option String) (session : Session State) :
    let ran := dispatcher.dispatch sink name session
    (∀ status, ran.result = .ok status → status ≠ 0 →
      ∃ failure, (Observation.records ran.trace).filter LogRecord.tellsStop =
          [.stopped name failure] ∧
        ran.trace.getLast? = some (.logged (.stopped name failure)) ∧
        failure.exitCode? = some status ∧
        failure.command? = (Observation.commands ran.trace).getLast?) ∧
      ((∀ status, ran.result = .ok status → status = 0) →
        (Observation.records ran.trace).filter LogRecord.tellsStop = []) := by
  intro ran
  rcases resolved : dispatcher.stepsFor name with ⟨looked, records⟩
  cases looked with
  | ok steps =>
      have result : ran.result = _ := result_dispatch tolerated resolved session
      have trace : ran.trace = _ := trace_dispatch tolerated resolved session
      have commands : Observation.commands ran.trace = _ :=
        commands_dispatch tolerated resolved session
      have told : (Observation.records ran.trace).filter LogRecord.tellsStop = _ :=
        tellsStop_dispatch tolerated resolved session
      rw [told, result]
      constructor
      · intro status comesTo nonzero
        rcases Turn.closing_of_status comesTo nonzero name with ⟨failure, stop, exitCode, command⟩
        refine ⟨failure, ?_, ?_, exitCode, ?_⟩
        · rw [stop]
          rfl
        · rw [trace, stop]
          simp
        · rw [command, commands, List.getLast?_map]
      · intro noStatus
        rw [Turn.closing_of_no_status noStatus]
        rfl
  | error failure =>
      have refused : ran = _ := dispatch_of_refused resolved session
      rw [refused]
      refine ⟨?_, fun _ => ?_⟩
      · intro status impossible
        cases impossible
      · have lookup := dispatcher.stops_stepsFor name
        rw [resolved] at lookup
        rw [Observation.records_logged]
        exact lookup

/-- The log of dispatches of any names. Warnings are about unknown names only, one for each name
that is not listed unless the dispatcher is strict. Every process is started between the records
that announce it and the one that tells how it ended. The end of a subcommand is told if and only if
its status is not zero. If an absent name is listed, the listed names cannot be told: an unknown
name then comes to a failure, and is not logged. -/
theorem rounds_logged (dispatcher : Dispatcher) {sink : Sink State} (tolerated : sink.Tolerated)
    (names : List (Option String)) (session : Session State) :
    let rounds := dispatcher.rounds sink names session
    let severe := (Observation.records (Round.trace rounds)).filter LogRecord.isSevere
    (∀ known, dispatcher.table.names = known.map some →
        severe = names.filterMap (dispatcher.warning? known)) ∧
      (none ∈ dispatcher.table.names →
        severe = [] ∧
          ∀ round ∈ rounds, ∀ word, round.name = some word → word ≠ "" →
            some word ∉ dispatcher.table.names →
              ∃ position, round.effect.result = .error (.namelessEntry position)) ∧
      ∀ round ∈ rounds,
        let turns :=
          Turn.schedule ((dispatcher.table.steps? round.name).getD []) round.found.attempts
        let stops := (Observation.records round.effect.trace).filter LogRecord.tellsStop
        Turn.Bracketed turns 1 round.effect.trace ∧
          (∀ status, round.effect.result = .ok status → status ≠ 0 →
            ∃ failure, stops = [.stopped round.name failure] ∧
              round.effect.trace.getLast? = some (.logged (.stopped round.name failure)) ∧
              failure.exitCode? = some status ∧
              failure.command? = (Observation.commands round.effect.trace).getLast?) ∧
          ((∀ status, round.effect.result = .ok status → status = 0) → stops = []) := by
  intro rounds severe
  have warned : severe = _ := dispatcher.severe_rounds tolerated names session
  refine ⟨?_, ?_, ?_⟩
  · intro known present
    rw [warned, List.filterMap_eq_flatMap_toList]
    simp only [severe_stepsFor present]
  · intro absent
    constructor
    · rw [warned, List.flatMap_eq_nil_iff]
      intro name occurs
      exact (stepsFor_of_absent absent name).1
    · intro round occurs word named nonempty unlisted
      rcases (stepsFor_of_absent absent round.name).2 word named nonempty unlisted with
        ⟨position, refused⟩
      rw [effect_of_mem_rounds occurs, dispatch_of_refused refused]
      exact ⟨position, rfl⟩
  · intro round occurs
    rw [effect_of_mem_rounds occurs]
    exact ⟨dispatcher.bracketed_dispatch tolerated round.name round.found,
      dispatcher.stops_dispatch tolerated round.name round.found⟩

/-- Telemetry is lost, the second step of a listed name is killed by a signal, and another name is
not listed. -/
theorem rounds_logged_killed :
    let sink := Sink.recorder fun _ => some ⟨.telemetry, "full"⟩
    let steps : List Invocation := [⟨"make", ["all"]⟩, ⟨"make", ["check"]⟩, ⟨"make", ["doc"]⟩]
    let dispatcher : Dispatcher := { table := ⟨[(some "build", steps)]⟩ }
    let session : Session Nat := ⟨[{}, { outcome := .exited (-9) }], none, 0⟩
    let rounds := dispatcher.rounds sink [some "deploy", none, some "build"] session
    sink.Tolerated ∧
      (Observation.records (Round.trace rounds)).filter LogRecord.isSevere =
        [.unknownSubcommand "deploy" ["build"]] ∧
      (rounds.map fun round => round.effect.result) = [.ok 0, .ok 0, .ok 137] ∧
      ∀ round ∈ rounds, round.effect.result = .ok 137 →
        Observation.commands round.effect.trace = [["make", "all"], ["make", "check"]] ∧
          ∃ failure, (Observation.records round.effect.trace).filter LogRecord.tellsStop =
            [.stopped round.name failure] ∧ failure.command? = some ["make", "check"] := by
  intro sink steps dispatcher session rounds
  have tolerated : sink.Tolerated := by
    intro emission store fault raised
    cases raised
    rfl
  rcases rounds_logged dispatcher tolerated [some "deploy", none, some "build"] session with
    ⟨warned, -, each⟩
  refine ⟨tolerated, (warned ["build"] rfl).trans rfl, rfl, ?_⟩
  intro round occurs comesTo
  have commands : Observation.commands round.effect.trace =
      [["make", "all"], ["make", "check"]] := by
    simp only [rounds, Dispatcher.rounds, List.mem_cons, List.not_mem_nil, or_false] at occurs
    rcases occurs with rfl | rfl | rfl
    · cases comesTo
    · cases comesTo
    · rfl
  rcases (each round occurs).2.1 137 comesTo (by decide) with ⟨failure, stops, -, -, command⟩
  refine ⟨commands, failure, stops, ?_⟩
  rw [command, commands]
  rfl

/-- An unknown name leaves no warning if the absent name is the only one that is listed. -/
theorem rounds_unwarned :
    let dispatcher : Dispatcher := { table := ⟨[(none, [])]⟩ }
    let sink := Sink.recorder fun _ => none
    let rounds := dispatcher.rounds sink [some "deploy"] ⟨[], none, 0⟩
    dispatcher.strict = false ∧ some "deploy" ∉ dispatcher.table.names ∧ sink.Tolerated ∧
      (rounds.map fun round => round.effect.result) = [.error (.namelessEntry 0)] ∧
      ¬∃ known, (Observation.records (Round.trace rounds)).filter LogRecord.isSevere =
        [.unknownSubcommand "deploy" known] := by
  intro dispatcher sink rounds
  refine ⟨rfl, by decide, ?_, rfl, ?_⟩
  · intro emission store fault impossible
    cases impossible
  · rintro ⟨known, impossible⟩
    cases impossible

end Dispatcher

end BuildSteps
