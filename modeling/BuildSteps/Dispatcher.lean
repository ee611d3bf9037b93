import BuildSteps.Runner
import BuildSteps.Table

/-!
# The dispatcher

The dispatcher looks a subcommand up in its table and runs its steps. A name that is not in the
table has no steps; if it is not empty, that is worth a warning, and in strict mode a failure.
The exit status of a dispatch is zero, or the status of the first step that fails.
-/

namespace BuildSteps

/-- A table of subcommands and how to take unknown ones. -/
structure Dispatcher where
  table : Table := .workspaceActions
  strict : Bool := false
  deriving Repr, DecidableEq

namespace Dispatcher

/-- The steps of a name that is not in the table, with what is logged about it. -/
def unlistedSteps (dispatcher : Dispatcher) (name : Option String) :
    Except Failure (List Invocation) × List LogRecord :=
  match name with
  | none | some "" => (.ok [], [.noSubcommand])
  | some word =>
    if dispatcher.strict then (.error (.ofUnknownName name dispatcher.table.names), [])
    else
      match presentNames dispatcher.table.names with
      | .error position => (.error (.namelessEntry position), [])
      | .ok known => (.ok [], [.unknownSubcommand word known])

/-- The steps of a name, with what is logged about it. -/
def stepsFor (dispatcher : Dispatcher) (name : Option String) :
    Except Failure (List Invocation) × List LogRecord :=
  match dispatcher.table.steps? name with
  | some steps => (.ok steps, [])
  | none => dispatcher.unlistedSteps name

variable {State : Type}

/-- Runs the steps of a name; a failure that carries an exit status is logged and gives it. -/
def conclude (name : Option String) (ran : Effect State Unit) : Effect State Int :=
  match ran.result with
  | .ok _ => ⟨.ok 0, ran.trace, ran.session⟩
  | .error failure =>
    match failure.exitCode? with
    | some exitCode =>
      ⟨.ok exitCode, ran.trace ++ [.logged (.stopped name failure)], ran.session⟩
    | none => ⟨.error failure, ran.trace, ran.session⟩

/-- Runs a subcommand and gives its exit status. -/
def dispatch (dispatcher : Dispatcher) (sink : Sink State) (name : Option String)
    (session : Session State) : Effect State Int :=
  match dispatcher.stepsFor name with
  | (.error failure, records) => ⟨.error failure, records.map .logged, session⟩
  | (.ok steps, records) =>
    let ran := conclude name (Runner.runSteps sink steps session)
    ⟨ran.result, records.map .logged ++ ran.trace, ran.session⟩

end Dispatcher

end BuildSteps
