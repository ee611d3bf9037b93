/-!
# Faults

A fault comes from outside the dispatcher: from the request to start a process, or from the place
that telemetry is sent to. It has a kind and a text. Three kinds are told apart by the runner: a
missing file and an interrupt, when they come from a process, and a telemetry fault, when it comes
from telemetry. All other faults pass through.
-/

namespace BuildSteps

/-- The kinds of faults. -/
inductive FaultKind where
  | missingFile
  | interrupt
  | permission
  | notDirectory
  | system
  | value
  | argument
  | general
  | telemetry
  deriving Repr, DecidableEq

/-- A fault from outside the dispatcher. -/
structure Fault where
  kind : FaultKind
  text : String
  deriving Repr, DecidableEq

end BuildSteps
