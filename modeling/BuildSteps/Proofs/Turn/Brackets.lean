import BuildSteps.Proofs.Turn.Ending

/-!
# Processes between their log records

Whoever reads the log of a run next to the processes that it starts finds every process between the
records that announce it and the one record that tells how it ended.

A run is followed step by step. Each step contributes a block that holds its announcement, the start
of its process and what is logged behind it, and in front of the next start there are announcements
only. So a block can be put in front of any trace that is bracketed already and begins with no end
of a process, which is the induction step for a run of several steps.
-/

namespace BuildSteps

namespace LogRecord

/-- Whether a record is a warning or worse. -/
def isSevere (record : LogRecord) : Bool :=
  decide (Level.warning.rank ≤ record.level.rank)

/-- Whether a record is, for a reader of the log, one that tells the end of a subcommand. -/
def tellsStop (record : LogRecord) : Bool :=
  decide (record.level = .info) && decide (record.source = .dispatcher)

/-- A record is plain if it is no warning and does not tell the end of a subcommand. -/
def IsPlain (record : LogRecord) : Prop :=
  record.isSevere = false ∧ record.tellsStop = false

theorem level_of_tellsEnd {record : LogRecord} (tells : record.tellsEnd = true) :
    record.level = .info ∧ record.source = .toolchain := by
  simp only [tellsEnd, Bool.and_eq_true, decide_eq_true_eq] at tells
  exact tells.1

theorem isPlain_of_tellsEnd {record : LogRecord} (tells : record.tellsEnd = true) :
    record.IsPlain := by
  rcases level_of_tellsEnd tells with ⟨level, source⟩
  simp only [IsPlain, isSevere, tellsStop, level, source]
  decide

theorem filter_of_plain {records : List LogRecord} (plain : ∀ record ∈ records, record.IsPlain) :
    records.filter isSevere = [] ∧ records.filter tellsStop = [] := by
  simp only [List.filter_eq_nil_iff, Bool.not_eq_true]
  exact ⟨fun record occurs => (plain record occurs).1, fun record occurs => (plain record occurs).2⟩

end LogRecord

namespace Observation

/-- The part of a trace in front of the next process that is started. -/
def untilNextStart (trace : List Observation) : List Observation :=
  trace.takeWhile fun observation => observation.command?.isNone

/-- The records in front of the next process that tell how a process ended. -/
def endsTold (trace : List Observation) : List LogRecord :=
  (records (untilNextStart trace)).filter LogRecord.tellsEnd

@[simp]
theorem records_append (first second : List Observation) :
    records (first ++ second) = records first ++ records second := by
  simp [records]

@[simp]
theorem records_logged (logged : List LogRecord) : records (logged.map .logged) = logged := by
  induction logged with
  | nil => rfl
  | cons first rest ih =>
      simp only [records] at ih
      simp [records, record?, ih]

theorem commands_started (command : List String) (rest : List Observation) :
    commands (.started command :: rest) = command :: commands rest := rfl

theorem untilNextStart_append {first : List Observation} (unstarted : commands first = [])
    (second : List Observation) :
    untilNextStart (first ++ second) = first ++ untilNextStart second := by
  rw [commands, List.filterMap_eq_nil_iff] at unstarted
  rw [untilNextStart, List.takeWhile_append_of_pos]
  · rfl
  · intro observation occurs
    rw [unstarted observation occurs]
    rfl

theorem untilNextStart_of_unstarted {trace : List Observation} (unstarted : commands trace = []) :
    untilNextStart trace = trace := by
  have whole := untilNextStart_append unstarted []
  simpa [untilNextStart] using whole

/-- A process is started behind any part of a trace in which none is. -/
theorem split_behind {first second before after : List Observation} {command : List String}
    (unstarted : commands first = [])
    (split : first ++ second = before ++ .started command :: after) :
    ∃ between, before = first ++ between ∧ second = between ++ .started command :: after := by
  rcases List.append_eq_append_iff.mp split with
    ⟨between, before_eq, second_eq⟩ | ⟨between, first_eq, rest_eq⟩
  · exact ⟨between, before_eq, second_eq⟩
  · cases between with
    | nil => exact ⟨[], by simpa using first_eq.symm, rest_eq.symm⟩
    | cons observation others =>
        rw [List.cons_append, List.cons.injEq] at rest_eq
        rcases rest_eq with ⟨rfl, -⟩
        rw [first_eq, commands_append, commands_started] at unstarted
        simp at unstarted

end Observation

namespace Turn

open Observation (commands endsTold untilNextStart)

/-- Each process that is started in a trace is that of the next turn. It is started just behind the
two records that announce it, and up to the next one a single record tells how it ended, or none if
it ended by a fault that passes through. -/
def Bracketed (turns : List Turn) (index : Nat) (trace : List Observation) : Prop :=
  ∀ before command after, trace = before ++ .started command :: after →
    ∃ turn earlier,
      turns[(commands before).length]? = some turn ∧
      turn.invocation.argv = command ∧
      before = earlier ++ [.logged (.step (index + (commands before).length) turn.invocation),
        .logged (.executing turn.invocation)] ∧
      endsTold after = turn.ending?.toList

/-- What is observed of a turn: the records that announce it, its start and what is behind it. -/
def block (index : Nat) (turn : Turn) (behind : List Observation) : List Observation :=
  [.logged (.step index turn.invocation), .logged (.executing turn.invocation),
    .started turn.invocation.argv] ++ behind

variable {turn : Turn} {turns : List Turn} {index : Nat} {behind rest : List Observation}

theorem bracketed_of_unstarted {trace : List Observation} (unstarted : commands trace = []) :
    Bracketed turns index trace := by
  intro before command after split
  rw [split, Observation.commands_append, Observation.commands_started] at unstarted
  simp at unstarted

theorem endsTold_block : endsTold (block index turn behind ++ rest) = [] := by
  have quiet : (LogRecord.step index turn.invocation).tellsEnd = false := rfl
  have told : endsTold (block index turn behind ++ rest) =
      [.step index turn.invocation, .executing turn.invocation].filter LogRecord.tellsEnd := rfl
  simp [told, quiet, LogRecord.tellsEnd_executing]

theorem commands_block (unstarted : commands behind = []) :
    commands (block index turn behind) = [turn.invocation.argv] := by
  rw [block, Observation.commands_append, unstarted]
  rfl

/-- The process is that of the block, or it is started in the trace behind it. -/
theorem split_block {before after : List Observation} {command : List String}
    (unstarted : commands behind = [])
    (split : block index turn behind ++ rest = before ++ .started command :: after) :
    (before = [.logged (.step index turn.invocation), .logged (.executing turn.invocation)] ∧
        command = turn.invocation.argv ∧ after = behind ++ rest) ∨
      ∃ between, before = block index turn behind ++ between ∧
        rest = between ++ .started command :: after := by
  rw [block, List.append_assoc] at split
  match before with
  | [] | [_] => simp at split
  | [step, executing] =>
      simp only [List.cons_append, List.nil_append, List.cons.injEq] at split
      rcases split with ⟨rfl, rfl, started, rfl⟩
      cases started
      exact Or.inl ⟨rfl, rfl, rfl⟩
  | step :: executing :: started :: later =>
      simp only [List.cons_append, List.nil_append, List.cons.injEq] at split
      rcases split with ⟨rfl, rfl, rfl, splitRest⟩
      rcases Observation.split_behind unstarted splitRest with ⟨between, rfl, rest_eq⟩
      exact Or.inr ⟨between, rfl, rest_eq⟩

/-- The records of a turn are plain if what stands behind its start are ends and losses. -/
theorem isPlain_block
    (logged : ∀ record ∈ Observation.records behind,
      record.tellsEnd = true ∨ ∃ text, record = .telemetryLost text) :
    ∀ record ∈ Observation.records (block index turn behind), record.IsPlain := by
  intro record occurs
  rw [block, Observation.records_append, List.mem_append] at occurs
  rcases occurs with announces | occurs
  · have announced : record ∈ [LogRecord.step index turn.invocation, .executing turn.invocation] :=
      announces
    simp only [List.mem_cons, List.not_mem_nil, or_false] at announced
    rcases announced with rfl | rfl <;> exact ⟨rfl, rfl⟩
  · rcases logged record occurs with tells | ⟨text, rfl⟩
    · exact LogRecord.isPlain_of_tellsEnd tells
    · exact ⟨rfl, rfl⟩

/-- A block in front of a bracketed trace that begins with no end of a process. -/
theorem bracketed_block (unstarted : commands behind = [])
    (ends : (Observation.records behind).filter LogRecord.tellsEnd = turn.ending?.toList)
    (quiet : endsTold rest = []) (bracketed : Bracketed turns (index + 1) rest) :
    Bracketed (turn :: turns) index (block index turn behind ++ rest) := by
  intro before command after split
  rcases split_block unstarted split with ⟨rfl, rfl, rfl⟩ | ⟨between, rfl, splitRest⟩
  · refine ⟨turn, [], rfl, rfl, rfl, ?_⟩
    rw [endsTold] at quiet ⊢
    rw [Observation.untilNextStart_append unstarted, Observation.records_append,
      List.filter_append, ends, quiet, List.append_nil]
  · rcases bracketed between command after splitRest with
      ⟨found, earlier, next, argv, announced, told⟩
    have count : (commands (block index turn behind ++ between)).length =
        (commands between).length + 1 := by
      rw [Observation.commands_append, commands_block unstarted]
      rfl
    refine ⟨found, block index turn behind ++ earlier, ?_, argv, ?_, told⟩
    · rw [count, List.getElem?_cons_succ, next]
    · rw [count, List.append_assoc, ← Nat.add_assoc, Nat.add_right_comm, ← announced]

end Turn

namespace Runner

variable {State : Type} {sink : Sink State} {step : Invocation} {steps : List Invocation}
  {session : Session State} {index : Nat} {closing : List Observation}

/-- A report starts no process. It logs lost telemetry, and then the remark on the process. -/
theorem records_report (tolerated : sink.Tolerated) (emission : Emission) (handling : Handling)
    (session : Session State) :
    let trace := (report sink emission handling session).trace
    Observation.commands trace = [] ∧
      ∃ lost : List LogRecord, (∀ record ∈ lost, ∃ text, record = .telemetryLost text) ∧
        Observation.records trace = lost ++ [handling.remark] := by
  unfold report
  split
  · exact ⟨rfl, [], by simp, rfl⟩
  · rename_i fault store sent
    have kind := tolerated emission session.store fault (by rw [sent])
    simp only [kind, if_true]
    exact ⟨rfl, [.telemetryLost fault.text], by simp, rfl⟩

/-- A run is seen as a block. Behind the start there are records of lost telemetry, and the one that
tells how the process ended. -/
theorem trace_run (tolerated : sink.Tolerated) (index : Nat) (step : Invocation)
    (session : Session State) :
    ∃ behind,
      .logged (.step index step) :: (run sink step session).trace =
        Turn.block index (turn step session) behind ∧
      Observation.commands behind = [] ∧
      (Observation.records behind).filter LogRecord.tellsEnd =
        (turn step session).ending?.toList ∧
      ∀ record ∈ Observation.records behind,
        record.tellsEnd = true ∨ ∃ text, record = .telemetryLost text := by
  cases handled : handle step (nextAttempt session) with
  | ok handling =>
      have ends : (turn step session).ending? = some handling.remark :=
        Turn.ending?_of_handled handled
      have tells := Turn.tellsEnd_of_ending? ends
      rcases records_report tolerated ((turn step session).emission handling) handling
        (started session step) with ⟨unstarted, lost, losses, logged⟩
      rw [← reported] at unstarted logged
      have silent : lost.filter LogRecord.tellsEnd = [] := by
        rw [List.filter_eq_nil_iff]
        intro record occurs
        rcases losses record occurs with ⟨text, rfl⟩
        simp [LogRecord.tellsEnd, LogRecord.level]
      refine ⟨(reported sink step handling session).trace, ?_, unstarted, ?_, ?_⟩
      · rw [run_of_handled handled]
        rfl
      · rw [logged, List.filter_append, silent, ends]
        simp [tells]
      · intro record occurs
        rw [logged, List.mem_append, List.mem_singleton] at occurs
        rcases occurs with lose | rfl
        · exact Or.inr (losses record lose)
        · exact Or.inl tells
  | error fault =>
      have ends : (turn step session).ending? = none := Turn.ending?_of_passed handled
      refine ⟨[], ?_, rfl, ?_, ?_⟩
      · rw [run_of_passed handled]
        rfl
      · rw [ends]
        rfl
      · simp [Observation.records]

/-- A run of steps, with anything behind it that starts no process and tells no end, is bracketed
and begins with no end of a process. -/
theorem bracketed_runFrom (tolerated : sink.Tolerated) (index : Nat) (steps : List Invocation)
    (session : Session State) (unstarted : Observation.commands closing = [])
    (quiet : (Observation.records closing).filter LogRecord.tellsEnd = []) :
    let whole := (runFrom sink index steps session).trace ++ closing
    Observation.endsTold whole = [] ∧
      Turn.Bracketed (Turn.schedule steps session.attempts) index whole := by
  have quietClosing : Observation.endsTold closing = [] := by
    rw [Observation.endsTold, Observation.untilNextStart_of_unstarted unstarted, quiet]
  induction steps generalizing index session with
  | nil => exact ⟨quietClosing, Turn.bracketed_of_unstarted unstarted⟩
  | cons step rest ih =>
      rcases trace_run tolerated index step session with ⟨behind, block, unstartedBehind, ends, -⟩
      rcases session_run tolerated step session with ⟨store, left⟩
      rw [schedule_cons]
      cases ran : (run sink step session).result with
      | ok done =>
          rcases ih (index + 1) (run sink step session).session with ⟨quietRest, bracketed⟩
          rw [left] at bracketed
          rw [runFrom_cons_of_succeeds ran, block, List.append_assoc]
          refine ⟨Turn.endsTold_block, ?_⟩
          apply Turn.bracketed_block unstartedBehind ends quietRest
          rw [left]
          exact bracketed
      | error failure =>
          rw [runFrom_cons_of_fails ran, block]
          refine ⟨Turn.endsTold_block, ?_⟩
          apply Turn.bracketed_block unstartedBehind ends quietClosing
          exact Turn.bracketed_of_unstarted unstarted

/-- A run of steps logs plain records only. -/
theorem isPlain_runFrom (tolerated : sink.Tolerated) (index : Nat) (steps : List Invocation)
    (session : Session State) :
    ∀ record ∈ Observation.records (runFrom sink index steps session).trace, record.IsPlain := by
  induction steps generalizing index session with
  | nil =>
      intro record impossible
      cases impossible
  | cons step rest ih =>
      rcases trace_run tolerated index step session with ⟨behind, block, -, -, logged⟩
      have plain : ∀ record ∈ Observation.records (Turn.block index (turn step session) behind),
          record.IsPlain := Turn.isPlain_block logged
      cases ran : (run sink step session).result with
      | ok done =>
          intro record occurs
          rw [runFrom_cons_of_succeeds ran, block, Observation.records_append,
            List.mem_append] at occurs
          rcases occurs with own | later
          · exact plain record own
          · exact ih (index + 1) _ record later
      | error failure =>
          rw [runFrom_cons_of_fails ran, block]
          exact plain

end Runner

end BuildSteps
