import BuildSteps.Fault

/-!
# Processes

Starting a process ends with its return code or with a fault. A negative return code means that
the process was killed by that signal; its exit status is then 128 and the number of the signal,
as in a shell. The clock is read just before and just after.
-/

namespace BuildSteps

/-- How the start of a process ends. -/
inductive Outcome where
  | exited (returnCode : Int)
  | raised (fault : Fault)
  deriving Repr, DecidableEq

/-- A process with the clock's readings, in seconds, around it. -/
structure Attempt where
  outcome : Outcome := .exited 0
  startedAt : Float := 0
  finishedAt : Float := 0
  deriving Repr

/-- How long a process took, in seconds. -/
def Attempt.duration (attempt : Attempt) : Float :=
  attempt.finishedAt - attempt.startedAt

/-- The exit status of a return code. -/
def exitStatus (returnCode : Int) : Int :=
  if returnCode < 0 then 128 - returnCode else returnCode

/-- The exit status of a program that cannot be found. -/
def notFoundStatus : Int := 127

/-- The exit status of a program that is interrupted. -/
def interruptStatus : Int := 130

end BuildSteps
