import BuildSteps.CommandLine.Run

/-!
# Rehearsing a command line

The program rehearses a command line. It shows the commands that would be started, and takes the
return code of each of them from the standard input, one a line, or zero when there is none left.
It starts no process and writes no file, and ends with the exit status that the command line asks
for.
-/

namespace BuildSteps.Rehearsal

/-- The variables that are passed on: those that the console follows, and those of the settings in
capitals, as they are usually written. -/
def variableNames : List String :=
  ["COLUMNS", "LINES", "TERM", "TTY_COMPATIBLE", "FORCE_COLOR"] ++
    Setting.all.map fun setting => setting.variableName.map Char.toUpper

/-- The variables that are passed on, as far as they are set. -/
def readEnvironment : IO Environment := do
  let values ← variableNames.mapM fun name => do
    return (← IO.getEnv name).map fun content => (name, content)
  return values.filterMap id

/-- The processes that end with the return codes on the next lines, at most a given number. -/
def readAttempts (stream : IO.FS.Stream) : Nat → IO (List Attempt)
  | 0 => return []
  | count + 1 => do
    match (← stream.getLine).trimAscii.toInt? with
    | none => return []
    | some returnCode =>
      let others ← readAttempts stream count
      return { outcome := .exited returnCode } :: others

end BuildSteps.Rehearsal

open BuildSteps in
/-- Rehearses the command line with the given words. -/
def main (words : List String) : IO UInt32 := do
  let environment ← Rehearsal.readEnvironment
  let planned := Observation.commands (CommandLine.run words { environment := environment }).trace
  let attempts ← Rehearsal.readAttempts (← IO.getStdin) planned.length
  let concluded := CommandLine.run words { environment := environment, attempts := attempts }
  for command in Observation.commands concluded.trace do
    IO.println (spaced command)
  IO.print concluded.output
  IO.eprint concluded.errors
  match concluded.ending with
  | .ok status => return (status % 256).toNat.toUInt32
  | .error failure =>
    IO.eprintln failure.message
    return 1
