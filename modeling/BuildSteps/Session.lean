import BuildSteps.Log.Record
import BuildSteps.Telemetry.Emission

/-!
# Sessions

A session is what one action of the dispatcher finds and leaves to the next: the processes still
to come, the command that was run last, and the state of the telemetry sink. An action gives a
result, a trace of what can be observed of it, in order, and the session that it leaves.
-/

namespace BuildSteps

/-- What an action finds and leaves. The processes that no attempt is listed for succeed at once. -/
structure Session (State : Type) where
  attempts : List Attempt := []
  lastCommand : Option (List String) := none
  store : State

/-- What can be observed of an action. -/
inductive Observation where
  | logged (record : LogRecord)
  | started (command : List String)
  | emitted (emission : Emission)

/-- What an action comes to. -/
structure Effect (State Result : Type) where
  result : Except Failure Result
  trace : List Observation
  session : Session State

namespace Observation

/-- The log record that is observed. -/
def record? : Observation → Option LogRecord
  | .logged record => some record
  | _ => none

/-- The command that is observed to start. -/
def command? : Observation → Option (List String)
  | .started command => some command
  | _ => none

/-- The report that is observed. -/
def emission? : Observation → Option Emission
  | .emitted emission => some emission
  | _ => none

/-- The log records of a trace. -/
def records (trace : List Observation) : List LogRecord :=
  trace.filterMap record?

/-- The commands that were started in a trace. -/
def commands (trace : List Observation) : List (List String) :=
  trace.filterMap command?

/-- The reports of a trace. -/
def emissions (trace : List Observation) : List Emission :=
  trace.filterMap emission?

end Observation

end BuildSteps
