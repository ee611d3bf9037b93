import BuildSteps.CommandLine.Run
import BuildSteps.Proofs.Console.PlainText
import BuildSteps.Proofs.Dispatch.Independence
import BuildSteps.Proofs.Dispatch.Status

/-!
# The status table of the command line

A command line of at most one word ends in one of three ways. If the settings are not valid, it is
refused with status two. If the word is not a subcommand, nothing is started, and the status is zero
unless the word is refused in strict mode. If it is one, its steps are run up to and including the
first that fails, and the status is that of this step. What is written to the standard error follows
the same table: a failed subcommand is reported behind the log, with its status and with the command
that failed.

The environment is taken to hold nothing but variables named like those of the settings, so no
variable asks for another width of the console.
-/

namespace BuildSteps

/-- An environment is own if the names of its variables start like those of the settings do, in some
letter case. -/
def Environment.IsOwn (environment : Environment) : Prop :=
  ∀ entry ∈ environment, "ci_build_".toList.isPrefixOf (Text.smalls entry.1.toList) = true

/-- An outcome is ordinary if the process returned, could not be found, or was interrupted. -/
def Outcome.IsOrdinary : Outcome → Prop
  | .exited _ => True
  | .raised fault => fault.kind = .missingFile ∨ fault.kind = .interrupt

/-- An ordinary outcome comes to a status. -/
theorem Outcome.status_of_isOrdinary {outcome : Outcome} (ordinary : outcome.IsOrdinary) :
    ∃ status, outcome.status = .ok status := by
  cases outcome with
  | exited returnCode => exact ⟨_, status_exited returnCode⟩
  | raised fault =>
      rcases ordinary with missing | interrupt
      · refine ⟨127, ?_⟩
        simp only [status, missing]
      · refine ⟨130, ?_⟩
        simp only [status, interrupt]

/-- The first turn that fails among ordinary outcomes is one of the steps and has a status other
than 0. -/
theorem Turn.exists_status_of_ordinary {steps : List Invocation} {attempts : List Attempt}
    (ordinary : ∀ attempt ∈ attempts, attempt.outcome.IsOrdinary) {turn : Turn}
    (found : firstFailing? (schedule steps attempts) = some turn) :
    turn.invocation ∈ steps ∧
      ∃ status, turn.attempt.outcome.status = .ok status ∧ status ≠ 0 := by
  rcases mem_schedule (mem_of_firstFailing? found) with ⟨step, met⟩
  have itsOutcome : turn.attempt.outcome.IsOrdinary := by
    rcases met with met | unlisted
    · exact ordinary _ met
    · rw [unlisted]
      trivial
  rcases Outcome.status_of_isOrdinary itsOutcome with ⟨status, ended⟩
  exact ⟨step, status, ended, status_ne_zero_of_fails (fails_of_firstFailing? found) ended⟩

section Width

variable {environment : Environment}

/-- An own environment has no variable whose name starts otherwise. -/
theorem Environment.get?_of_isOwn (own : environment.IsOwn) {name : String}
    (foreign : "ci_build_".toList.isPrefixOf (Text.smalls name.toList) = false) :
    environment.get? name = none := by
  rw [Environment.get?, List.lookup_eq_none_iff]
  intro entry occurs
  rw [bne_iff_ne]
  rintro rfl
  rw [own entry occurs] at foreign
  cases foreign

/-- An own environment leaves the console at its standard width. -/
theorem Console.width_of_isOwn (own : environment.IsOwn) :
    Console.width environment = .ok Console.standardWidth := by
  have declared : environment.get? "TTY_COMPATIBLE" = none :=
    Environment.get?_of_isOwn own (by decide)
  have forced : environment.get? "FORCE_COLOR" = none := Environment.get?_of_isOwn own (by decide)
  have columns : environment.get? "COLUMNS" = none := Environment.get?_of_isOwn own (by decide)
  have lines : environment.get? "LINES" = none := Environment.get?_of_isOwn own (by decide)
  simp [Console.width, isSimpleTerminal, isTerminal, askedSize, declared, forced, columns, lines]

end Width

namespace CommandLine

/-- A word is a plain argument if it is neither the option nor the end of the options. -/
def IsArgument (word : String) : Prop :=
  word ≠ "--" ∧ word ≠ "--help" ∧ isHelpWithValue word = false

/-- Whether a word that is not a subcommand is refused. -/
def isRefused (settings : Settings) (subcommand : Option String) : Bool :=
  settings.strict && decide (subcommand.getD "" ≠ "")

/-- An argument, or none, asks for a run of itself with no further words. -/
theorem ofWords_toList {subcommand : Option String}
    (argument : ∀ word ∈ subcommand, IsArgument word) :
    Request.ofWords subcommand.toList = .run subcommand [] := by
  cases subcommand with
  | none => rfl
  | some word =>
      rcases argument word rfl with ⟨notEnd, notHelp, noValue⟩
      simp [Request.ofWords, splitOptions, Request.ofArguments, notEnd, notHelp.symm, noValue]

theorem announce_of_isOwn {environment : Environment} (own : environment.IsOwn)
    (ending : Except Failure Int) (notice : Console.Notice) :
    announce environment ending (some notice) = (ending, notice.shown Console.standardWidth) := by
  simp only [announce, showOn, Console.width_of_isOwn own]

theorem mem_entries_of_listed {table : Table} {name : Option String} {steps : List Invocation}
    (listed : table.steps? name = some steps) : (name, steps) ∈ table.entries := by
  rw [Table.steps?, List.lookup_eq_some_iff] at listed
  rcases listed with ⟨front, back, whole, -⟩
  rw [whole]
  simp

/-- The listed names and the command lines of their steps are plain text. -/
theorem plain_of_listed {subcommand : Option String} {steps : List Invocation}
    (listed : Table.workspaceActions.steps? subcommand = some steps) :
    (nameText subcommand).toList.all Console.isPlain = true ∧
      ∀ step ∈ steps, (spaced step.argv).toList.all Console.isPlain = true := by
  have plain : ∀ entry ∈ Table.workspaceActions.entries,
      (nameText entry.1).toList.all Console.isPlain = true ∧
        ∀ step ∈ entry.2, (spaced step.argv).toList.all Console.isPlain = true := by
    decide
  exact plain _ (mem_entries_of_listed listed)

section Conclusion

variable {settings : Settings} {subcommand : Option String} {world : World}

/-- A run with invalid settings starts nothing, shows their notice and leaves the files as they
are. -/
theorem run_of_invalid (argument : ∀ word ∈ subcommand, IsArgument word)
    (own : world.environment.IsOwn) {invalids : List InvalidSetting}
    (invalid : Settings.ofEnvironment world.environment = .error invalids) :
    run subcommand.toList world =
      { ending := .ok 2
        errors := (Console.Notice.invalidSettings (InvalidSetting.report invalids)).shown
          Console.standardWidth
        files := world.files } := by
  simp only [run, ofWords_toList argument, Settings.result_get, invalid, announce_of_isOwn own]
  rfl

theorem run_of_valid (argument : ∀ word ∈ subcommand, IsArgument word)
    (valid : Settings.ofEnvironment world.environment = .ok settings) :
    run subcommand.toList world = runWith settings subcommand [] world := by
  simp only [run, ofWords_toList argument, Settings.result_get, valid]

/-- The dispatch that a run under some settings makes. -/
def dispatched (settings : Settings) (subcommand : Option String) (world : World) :
    Effect FileTree Int :=
  let dispatcher : Dispatcher := { strict := settings.strict }
  dispatcher.dispatch ((telemetryClient settings).sink world.now) subcommand
    ⟨world.attempts, none, world.files⟩

/-- A run comes to what its dispatch comes to, with the notice at the end of what it shows. -/
theorem runWith_eq (own : world.environment.IsOwn) {ending : Except Failure Int}
    {notice : Option Console.Notice}
    (concluded : conclude subcommand (dispatched settings subcommand world).result
      (dispatched settings subcommand world).session.lastCommand = (ending, notice)) :
    runWith settings subcommand [] world =
      { ending := ending
        errors := shownLog settings.logLevel (dispatched settings subcommand world).trace ++
          (notice.map fun notice => notice.shown Console.standardWidth).getD ""
        trace := (dispatched settings subcommand world).trace
        files := (dispatched settings subcommand world).session.store } := by
  simp only [dispatched] at concluded
  simp only [runWith, concluded]
  cases notice with
  | none => rfl
  | some notice =>
      simp only [announce_of_isOwn own]
      rfl

/-- A refused name is one that is unknown to the table. -/
theorem stepsFor_of_refused (refused : isRefused settings subcommand = true)
    (unlisted : Table.workspaceActions.steps? subcommand = none) :
    Dispatcher.stepsFor { strict := settings.strict } subcommand =
      (.error (.unknownSubcommand subcommand ["format", "build", "doc"]), []) := by
  simp only [isRefused, Bool.and_eq_true, decide_eq_true_eq] at refused
  rcases refused with ⟨strict, nonempty⟩
  simp only [Dispatcher.stepsFor, unlisted, Dispatcher.unlistedSteps]
  split
  · exact absurd rfl nonempty
  · exact absurd rfl nonempty
  · rw [if_pos strict]
    rfl

/-- A name that is unlisted and not refused has no steps. -/
theorem stepsFor_of_passed (passed : isRefused settings subcommand = false)
    (unlisted : Table.workspaceActions.steps? subcommand = none) :
    ∃ records, Dispatcher.stepsFor { strict := settings.strict } subcommand =
      (.ok [], records) := by
  simp only [Dispatcher.stepsFor, unlisted, Dispatcher.unlistedSteps]
  split
  · exact ⟨_, rfl⟩
  · exact ⟨_, rfl⟩
  · rename_i word nonempty
    have lenient : settings.strict = false := by
      cases strict : settings.strict with
      | false => rfl
      | true =>
          have empty : word = "" := by simpa [isRefused, strict] using passed
          exact absurd empty nonempty
    rw [lenient]
    exact ⟨_, rfl⟩

/-- A word that is not a subcommand starts nothing, and is refused in strict mode only. -/
theorem runWith_of_unlisted (own : world.environment.IsOwn)
    (unlisted : Table.workspaceActions.steps? subcommand = none) :
    let conclusion := runWith settings subcommand [] world
    Observation.commands conclusion.trace = [] ∧
      conclusion.ending = .ok (if isRefused settings subcommand then 2 else 0) ∧
      conclusion.errors = shownLog settings.logLevel conclusion.trace ++
        if isRefused settings subcommand then
          (Console.Notice.unknownSubcommand
            (unknownWording (nameText subcommand) ["format", "build", "doc"])).shown
              Console.standardWidth
        else "" := by
  intro conclusion
  cases refused : isRefused settings subcommand with
  | true =>
      have resolved := stepsFor_of_refused refused unlisted
      have dispatch : dispatched settings subcommand world =
          ⟨.error (.unknownSubcommand subcommand ["format", "build", "doc"]), [],
            ⟨world.attempts, none, world.files⟩⟩ := Dispatcher.dispatch_of_refused resolved _
      have concluded : conclude subcommand (dispatched settings subcommand world).result
          (dispatched settings subcommand world).session.lastCommand =
            (.ok 2, some (.unknownSubcommand
              (unknownWording (nameText subcommand) ["format", "build", "doc"]))) := by
        rw [dispatch]
        rfl
      have whole : conclusion = _ := runWith_eq own concluded
      rw [whole, dispatch]
      exact ⟨rfl, rfl, rfl⟩
  | false =>
      rcases stepsFor_of_passed refused unlisted with ⟨records, resolved⟩
      have tolerated := (telemetryClient settings).tolerated_sink world.now
      have result : (dispatched settings subcommand world).result = .ok 0 :=
        Dispatcher.result_dispatch tolerated resolved _
      have commands : Observation.commands (dispatched settings subcommand world).trace = [] :=
        Dispatcher.commands_dispatch tolerated resolved _
      have concluded : conclude subcommand (dispatched settings subcommand world).result
          (dispatched settings subcommand world).session.lastCommand = (.ok 0, none) := by
        rw [result]
        rfl
      have whole : conclusion = _ := runWith_eq own concluded
      rw [whole]
      exact ⟨commands, rfl, rfl⟩

/-- A listed name runs its steps up to the first that fails, and comes to its verdict. -/
theorem dispatched_of_listed {steps : List Invocation}
    (listed : Table.workspaceActions.steps? subcommand = some steps) :
    let turns := Turn.schedule steps world.attempts
    let ran := dispatched settings subcommand world
    ran.result = Turn.verdict turns ∧
      Observation.commands ran.trace =
        (Turn.reached turns).map (fun turn => turn.invocation.argv) ∧
      ran.session.lastCommand = Turn.lastCommand (Turn.reached turns) none := by
  intro turns ran
  have resolved : Dispatcher.stepsFor { strict := settings.strict } subcommand = (.ok steps, []) :=
    Dispatcher.stepsFor_of_listed listed
  have tolerated := (telemetryClient settings).tolerated_sink world.now
  refine ⟨Dispatcher.result_dispatch tolerated resolved _,
    Dispatcher.commands_dispatch tolerated resolved _, ?_⟩
  rcases Dispatcher.session_dispatch tolerated resolved ⟨world.attempts, none, world.files⟩ with
    ⟨store, left⟩
  simp only [ran, dispatched, left]
  rfl

/-- A subcommand runs its steps up to and including the first that fails, which gives the status and
is reported. -/
theorem runWith_of_listed (own : world.environment.IsOwn)
    (ordinary : ∀ attempt ∈ world.attempts, attempt.outcome.IsOrdinary) {steps : List Invocation}
    (listed : Table.workspaceActions.steps? subcommand = some steps) :
    let conclusion := runWith settings subcommand [] world
    let turns := Turn.schedule steps world.attempts
    let log := shownLog settings.logLevel conclusion.trace
    Observation.commands conclusion.trace =
        (Turn.reached turns).map (fun turn => turn.invocation.argv) ∧
      match Turn.firstFailing? turns with
      | none => conclusion.ending = .ok 0 ∧ conclusion.errors = log
      | some turn =>
        ∃ status, turn.attempt.outcome.status = .ok status ∧ status ≠ 0 ∧
          conclusion.ending = .ok status ∧
          conclusion.errors = log ++ Console.printed Console.standardWidth
            ("❌ " ++ nameText subcommand ++ " failed (exit " ++ toString status ++ "): " ++
              spaced turn.invocation.argv).toList := by
  intro conclusion turns log
  rcases dispatched_of_listed listed with ⟨result, commands, last⟩
  cases found : Turn.firstFailing? turns with
  | none =>
      have concluded : conclude subcommand (dispatched settings subcommand world).result
          (dispatched settings subcommand world).session.lastCommand = (.ok 0, none) := by
        rw [result, Turn.verdict, found]
        rfl
      have whole : conclusion = _ := runWith_eq own concluded
      refine ⟨?_, ?_, ?_⟩
      · rw [whole]
        exact commands
      · rw [whole]
      · simp only [log, whole, Option.map_none, Option.getD_none, String.append_empty]
  | some turn =>
      rcases Turn.exists_status_of_ordinary ordinary found with ⟨step, status, ended, nonzero⟩
      have final : Turn.lastCommand (Turn.reached turns) none = some turn.invocation.argv := by
        rw [Turn.lastCommand, Turn.getLast?_reached found]
        rfl
      have concluded : conclude subcommand (dispatched settings subcommand world).result
          (dispatched settings subcommand world).session.lastCommand =
            (.ok status, some (.failed (nameText subcommand) status
              (spaced turn.invocation.argv))) := by
        rw [result, last, Turn.verdict_of_status found ended, final]
        simp only [conclude, if_neg nonzero, Option.getD_some]
      have whole : conclusion = _ := runWith_eq own concluded
      rcases plain_of_listed listed with ⟨plainName, plainCommands⟩
      refine ⟨?_, status, ended, nonzero, ?_, ?_⟩
      · rw [whole]
        exact commands
      · rw [whole]
      · simp only [log, whole, Option.map_some, Option.getD_some,
          Console.Notice.shown_failed status plainName (plainCommands _ step)]

end Conclusion

end CommandLine

end BuildSteps
