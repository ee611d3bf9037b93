import BuildSteps.Decimal.Text
import BuildSteps.Failure
import BuildSteps.Invocation
import BuildSteps.Settings.Basic

/-!
# Log records

Every log record states one fact about a run. Its level, the part of the program that it comes
from and its wording follow from that fact.
-/

namespace BuildSteps

/-- The part of the program that a record comes from. -/
inductive Source where
  | dispatcher
  | toolchain
  | settings
  | commandLine
  deriving Repr, DecidableEq

/-- The name of a part of the program. -/
def Source.name : Source → String
  | .dispatcher => "ci_build.services.dispatcher"
  | .toolchain => "ci_build.services.toolchain"
  | .settings => "ci_build.utils.config"
  | .commandLine => "ci_build.cli"

/-- What a log record states. -/
inductive LogRecord where
  | step (index : Nat) (invocation : Invocation)
  | unknownSubcommand (name : String) (known : List String)
  | noSubcommand
  | stopped (name : Option String) (failure : Failure)
  | executing (invocation : Invocation)
  | completed (duration : Float) (invocation : Invocation)
  | failed (exitCode : Int) (invocation : Invocation)
  | notFound (text : String)
  | interrupted (invocation : Invocation)
  | telemetryLost (text : String)
  | settingsLoaded (settings : Settings)
  | argumentsIgnored (arguments : List String)

namespace LogRecord

/-- The level of a record. -/
def level : LogRecord → Level
  | .step _ _ | .noSubcommand | .telemetryLost _ | .settingsLoaded _ | .argumentsIgnored _ =>
    .debug
  | .unknownSubcommand _ _ => .warning
  | .stopped _ _ | .executing _ | .completed _ _ | .failed _ _ | .notFound _ | .interrupted _ =>
    .info

/-- The part of the program that a record comes from. -/
def source : LogRecord → Source
  | .step _ _ | .unknownSubcommand _ _ | .noSubcommand | .stopped _ _ => .dispatcher
  | .executing _ | .completed _ _ | .failed _ _ | .notFound _ | .interrupted _
  | .telemetryLost _ => .toolchain
  | .settingsLoaded _ => .settings
  | .argumentsIgnored _ => .commandLine

/-- A truth value in a record. -/
def truthText (truth : Bool) : String :=
  if truth then "True" else "False"

/-- The wording of a record. -/
def message : LogRecord → String
  | .step index invocation => "Step " ++ toString index ++ ": " ++ invocation.text
  | .unknownSubcommand name known =>
    "Unknown subcommand '" ++ name ++ "'; nothing to do (known: " ++ commaList known ++ ")"
  | .noSubcommand => "No subcommand given; nothing to do"
  | .stopped name failure => "Subcommand '" ++ nameText name ++ "' stopped: " ++ failure.message
  | .executing invocation => "Executing: " ++ invocation.text
  | .completed duration invocation =>
    "Completed in " ++ String.ofList (Decimal.fixedText 2 duration) ++ "s: " ++ invocation.text
  | .failed exitCode invocation =>
    "Command failed with exit " ++ toString exitCode ++ ": " ++ invocation.text
  | .notFound text => "Toolchain binary not found: " ++ text
  | .interrupted invocation => "Interrupted: " ++ invocation.text
  | .telemetryLost text => "Telemetry write failed: " ++ text
  | .settingsLoaded settings =>
    "Loaded settings: log_level=" ++ settings.logLevel.name ++ " strict=" ++
      truthText settings.strict ++ " telemetry=" ++
      (settings.telemetryDirectory.map PathName.text).getD "disabled"
  | .argumentsIgnored arguments => "Ignoring extra arguments: " ++ spaced arguments

/-- The line that shows a record. -/
def line (record : LogRecord) : String :=
  record.level.name ++ " " ++ record.source.name ++ ": " ++ record.message

end LogRecord

end BuildSteps
