import BuildSteps.CommandLine.Arguments
import BuildSteps.CommandLine.Screens
import BuildSteps.Console.Notice
import BuildSteps.Console.Width
import BuildSteps.Dispatcher
import BuildSteps.Telemetry.Client

/-!
# Running a command line

A run reads its arguments, loads the settings from the environment and dispatches the subcommand
with the standard table. Requests for help and mistakes in the arguments are answered before the
settings are loaded. Log records from the level of the settings on, and then a notice if the
program does not succeed, are written to the standard error. What is logged while the settings are
loaded stands in front of that level, and is not shown.
-/

namespace BuildSteps

/-- What a run finds: its environment, an instant, the processes to come, and the files. -/
structure World where
  environment : Environment := []
  now : Int := 0
  attempts : List Attempt := []
  files : FileTree := .empty

/-- What a run comes to. It ends with an exit status, or with a failure that nothing caught. -/
structure Conclusion where
  ending : Except Failure Int
  output : String := ""
  errors : String := ""
  trace : List Observation := []
  files : FileTree

namespace CommandLine

/-- The exit status of a run that is refused. -/
def refusalStatus : Int := 2

/-- The log lines that are shown from a level on. -/
def shownLog (least : Level) (trace : List Observation) : String :=
  let shown := (Observation.records trace).filter fun record => least.rank ≤ record.level.rank
  String.join (shown.map fun record => record.line ++ "\n")

/-- How the dispatch of a subcommand ends a run: the ending and the notice. -/
def conclude (subcommand : Option String) (result : Except Failure Int)
    (lastCommand : Option (List String)) : Except Failure Int × Option Console.Notice :=
  match result with
  | .ok exitCode =>
    if exitCode = 0 then (.ok 0, none)
    else
      let command := spaced (lastCommand.getD [])
      (.ok exitCode, some (.failed (nameText subcommand) exitCode command))
  | .error (.unknownSubcommand name known) =>
    let failure : Failure := .unknownSubcommand name known
    (.ok refusalStatus, some (.unknownSubcommand failure.message))
  | .error failure => (.error failure, none)

/-- How a run ends and what it shows, if it is to end in some way and to show what needs the width
of a console. If the width is refused, the run fails instead. -/
def showOn (width : Except Console.SizeError Nat) (ending : Except Failure Int)
    (shown : Nat → String) : Except Failure Int × String :=
  match width with
  | .ok width => (ending, shown width)
  | .error error => (.error (.passed error.fault), "")

/-- How a run ends and what it shows, if it is to end in some way with a notice. -/
def announce (environment : Environment) (ending : Except Failure Int) :
    Option Console.Notice → Except Failure Int × String
  | none => (ending, "")
  | some notice => showOn (Console.width environment) ending fun width => notice.shown width

/-- The telemetry client of some settings. -/
def telemetryClient (settings : Settings) : TelemetryClient where
  directory := settings.telemetryDirectory.map PathName.text
  maxMegabytes := settings.telemetryMaxMegabytes

/-- What is logged about extra arguments. -/
def extraRecords (extra : List String) : List Observation :=
  if extra = [] then [] else [.logged (.argumentsIgnored extra)]

/-- Dispatches a subcommand under some settings. -/
def runWith (settings : Settings) (subcommand : Option String) (extra : List String)
    (world : World) : Conclusion :=
  let dispatcher : Dispatcher := { strict := settings.strict }
  let sink := (telemetryClient settings).sink world.now
  let ran := dispatcher.dispatch sink subcommand ⟨world.attempts, none, world.files⟩
  let trace := extraRecords extra ++ ran.trace
  let (intended, notice) := conclude subcommand ran.result ran.session.lastCommand
  let (ending, shown) := announce world.environment intended notice
  { ending := ending
    errors := shownLog settings.logLevel trace ++ shown
    trace := trace
    files := ran.session.store }

/-- Runs a command line. -/
def run (words : List String) (world : World) : Conclusion :=
  match Request.ofWords words with
  | .mistake =>
    let width := Console.screenWidth world.environment
    let (ending, shown) := showOn width (.ok refusalStatus) mistakePanel
    { ending := ending, errors := shown, files := world.files }
  | .help =>
    let width := Console.screenWidth world.environment
    let (ending, shown) := showOn width (.ok 0) helpPage
    { ending := ending, output := shown, files := world.files }
  | .run subcommand extra =>
    match (Settings.get world.environment).result with
    | .ok settings => runWith settings subcommand extra world
    | .error invalids =>
      let notice : Console.Notice := .invalidSettings (InvalidSetting.report invalids)
      let (ending, shown) := announce world.environment (.ok refusalStatus) (some notice)
      { ending := ending, errors := shown, files := world.files }

end CommandLine

end BuildSteps
