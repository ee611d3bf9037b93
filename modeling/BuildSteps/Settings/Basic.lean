import BuildSteps.Files.PathName

/-!
# Settings

The four settings of a run, and their values where nothing is given.
-/

namespace BuildSteps

/-- How serious a log record is. -/
inductive Level where
  | debug
  | info
  | warning
  | error
  | critical
  deriving Repr, DecidableEq

namespace Level

/-- The name of a level. -/
def name : Level → String
  | .debug => "DEBUG"
  | .info => "INFO"
  | .warning => "WARNING"
  | .error => "ERROR"
  | .critical => "CRITICAL"

/-- The place of a level in the order of seriousness. -/
def rank : Level → Nat
  | .debug => 10
  | .info => 20
  | .warning => 30
  | .error => 40
  | .critical => 50

/-- All levels, the least serious first. -/
def all : List Level :=
  [.debug, .info, .warning, .error, .critical]

end Level

/-- The settings of a run. Telemetry is written only where a directory is given. -/
structure Settings where
  logLevel : Level := .warning
  strict : Bool := false
  telemetryDirectory : Option PathName := none
  telemetryMaxMegabytes : Int := 10
  deriving Repr, DecidableEq

namespace Settings

/-- Whether telemetry is written. -/
def telemetryEnabled (settings : Settings) : Bool :=
  settings.telemetryDirectory.isSome

end Settings

end BuildSteps
