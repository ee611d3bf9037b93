import BuildSteps.Session

/-!
# The runner

The runner starts one process at a time. A return code, a missing program and an interrupt are
handled: they give an event, a log record, and a failure unless the return code is zero. The event
is sent before the record is logged. A telemetry fault of the sink is logged and otherwise has no
effect; every other fault of the sink, and every other fault of the process, passes through.
-/

namespace BuildSteps

/-- How the runner deals with a process. -/
structure Handling where
  event : Event
  exitCode : Int
  remark : LogRecord
  failure : Option Failure

namespace Runner

/-- How a process is dealt with, or the fault that passes through. -/
def handle (invocation : Invocation) (attempt : Attempt) : Except Fault Handling :=
  match attempt.outcome with
  | .exited returnCode =>
    let status := exitStatus returnCode
    if status = 0 then .ok ⟨.success, 0, .completed attempt.duration invocation, none⟩
    else
      .ok ⟨.failure, status, .failed status invocation,
        some (.command ⟨invocation.argv, status, none⟩)⟩
  | .raised fault =>
    match fault.kind with
    | .missingFile =>
      .ok ⟨.notFound, notFoundStatus, .notFound fault.text,
        some (.notFound invocation.program invocation.arguments)⟩
    | .interrupt =>
      .ok ⟨.interrupted, interruptStatus, .interrupted invocation,
        some (.command ⟨invocation.argv, interruptStatus, none⟩)⟩
    | _ => .error fault

/-- The result that a way of dealing with a process comes to. -/
def Handling.result (handling : Handling) : Except Failure Unit :=
  match handling.failure with
  | some failure => .error failure
  | none => .ok ()

variable {State : Type}

/-- Reports a process that is dealt with, and logs the remark on it. -/
def report (sink : Sink State) (emission : Emission) (handling : Handling)
    (session : Session State) : Effect State Unit :=
  match sink.send emission session.store with
  | (.ok _, store) =>
    ⟨Handling.result handling, [.emitted emission, .logged handling.remark],
      { session with store := store }⟩
  | (.error fault, store) =>
    if fault.kind = .telemetry then
      ⟨Handling.result handling,
        [.emitted emission, .logged (.telemetryLost fault.text), .logged handling.remark],
        { session with store := store }⟩
    else ⟨.error (.passed fault), [.emitted emission], { session with store := store }⟩

/-- The next attempt of a session. -/
def nextAttempt (session : Session State) : Attempt :=
  session.attempts.head?.getD {}

/-- The session while a command runs. -/
def started (session : Session State) (invocation : Invocation) : Session State :=
  { session with
    attempts := session.attempts.tail
    lastCommand := some invocation.argv }

/-- Runs one invocation to its end. -/
def run (sink : Sink State) (invocation : Invocation) (session : Session State) :
    Effect State Unit :=
  let attempt := nextAttempt session
  let opening : List Observation := [.logged (.executing invocation), .started invocation.argv]
  match handle invocation attempt with
  | .error fault => ⟨.error (.passed fault), opening, started session invocation⟩
  | .ok handling =>
    let emission : Emission :=
      ⟨handling.event, invocation.argv, attempt.duration, handling.exitCode⟩
    let reported := report sink emission handling (started session invocation)
    ⟨reported.result, opening ++ reported.trace, reported.session⟩

/-- Runs steps in order, numbered from an index, and stops at the first failure. -/
def runFrom (sink : Sink State) : Nat → List Invocation → Session State → Effect State Unit
  | _, [], session => ⟨.ok (), [], session⟩
  | index, step :: rest, session =>
    let first := run sink step session
    match first.result with
    | .error failure =>
      ⟨.error failure, .logged (.step index step) :: first.trace, first.session⟩
    | .ok _ =>
      let others := runFrom sink (index + 1) rest first.session
      ⟨others.result, .logged (.step index step) :: first.trace ++ others.trace, others.session⟩

/-- Runs steps in order and stops at the first failure. -/
def runSteps (sink : Sink State) (steps : List Invocation) (session : Session State) :
    Effect State Unit :=
  runFrom sink 1 steps session

end Runner

end BuildSteps
