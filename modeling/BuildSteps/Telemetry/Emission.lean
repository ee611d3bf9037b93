import BuildSteps.Decimal.Text
import BuildSteps.Failure
import BuildSteps.Value.Basic

/-!
# Telemetry events

The runner reports each process that it handled by one event, with the command, its duration and
its exit status. An event is sent to a sink, which keeps a state of its own and may refuse it.
-/

namespace BuildSteps

/-- What became of a process. -/
inductive Event where
  | success
  | failure
  | notFound
  | interrupted
  deriving Repr, DecidableEq

/-- The name of an event. -/
def Event.name : Event → String
  | .success => "toolchain.success"
  | .failure => "toolchain.failure"
  | .notFound => "toolchain.not_found"
  | .interrupted => "toolchain.interrupted"

/-- The report on one process. The duration is in seconds. -/
structure Emission where
  event : Event
  command : List String
  duration : Float
  exitCode : Int
  deriving Repr

namespace Emission

/-- The duration in milliseconds, rounded to two places. -/
def durationMilliseconds (emission : Emission) : Float :=
  Decimal.roundPlaces 2 (emission.duration * 1000)

/-- The fields of the record of a report. -/
def fields (emission : Emission) : List (String × Value) :=
  [("command", .text (spaced emission.command)),
    ("duration_ms", .float emission.durationMilliseconds),
    ("exit_code", .int emission.exitCode)]

end Emission

/-- Where reports are sent to. -/
structure Sink (State : Type) where
  send : Emission → State → Except Fault Unit × State

namespace Sink

/-- A sink that counts the reports and answers each of them by a fault, or by none. -/
def recorder (answer : Nat → Option Fault) : Sink Nat where
  send _ count :=
    match answer count with
    | some fault => (.error fault, count + 1)
    | none => (.ok (), count + 1)

end Sink

end BuildSteps
