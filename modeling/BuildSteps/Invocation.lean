import BuildSteps.Text.Shell

/-!
# Invocations

An invocation is one call of an external program with a fixed list of arguments. It is shown as a
command line in shell syntax. Once it is built it refuses every change, and so does a table of
invocations.
-/

namespace BuildSteps

/-- One call of an external program. -/
structure Invocation where
  program : String
  arguments : List String
  deriving Repr, DecidableEq

/-- What is fixed once it is built. -/
inductive Fixed where
  | invocation
  | table
  deriving Repr, DecidableEq

namespace Invocation

/-- The argument vector: the program and its arguments. -/
def argv (invocation : Invocation) : List String :=
  invocation.program :: invocation.arguments

/-- The command line in shell syntax. -/
def text (invocation : Invocation) : String :=
  String.ofList (Text.shellLine (invocation.argv.map String.toList))

/-- A part of an invocation is not given another value. -/
def change (_invocation : Invocation) (_part : String) : Except Fixed Invocation :=
  .error .invocation

end Invocation

end BuildSteps
