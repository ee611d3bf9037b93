import BuildSteps.Proofs.Telemetry.Logs

/-!
# Calls of a client

The calls of a client are made one after the other, each on the tree that the one before has left. A
call that returns normally has written its line, whatever became of the calls before it.

What holds of the two logs after any number of calls is an invariant over the lines written so far:
a call that returns adds its line to them, and one that fails adds none. `filesAfter_invariant`
carries such an invariant, given by what it says of one call, through all of them.
-/

namespace BuildSteps

/-- A call with an event and its fields, at a given instant. -/
structure Call where
  now : Int
  event : Value
  fields : List (String × Value)

/-- The line of a call, if its record has a written form. -/
def Call.line (call : Call) : Except Unencodable String :=
  TelemetryClient.recordLine call.now call.event call.fields

/-- What is said of the lines written so far and the two logs is an invariant of the calls if each
call keeps it, under a limit to the size of the log. -/
structure LogPair.IsInvariant (limit : Int) (Invariant : List String → LogPair → Prop) : Prop where
  noDirectory : ∀ lines pair, Invariant lines pair → pair.current ≠ some .directory
  written : ∀ lines text before after, Invariant lines before →
    LogPair.Written limit text before after → Invariant (lines ++ [text]) after
  failed : ∀ lines before after, Invariant lines before →
    LogPair.Failed limit before after → Invariant lines after

namespace TelemetryClient

/-- The result of a call, and the tree that it leaves. -/
def answer (client : TelemetryClient) (call : Call) (files : FileTree) :
    Except EmitError Unit × FileTree :=
  client.emit call.now call.event call.fields files

/-- The tree that calls leave. -/
def filesAfter (client : TelemetryClient) : List Call → FileTree → FileTree
  | [], files => files
  | call :: rest, files => client.filesAfter rest (client.answer call files).2

/-- The lines of those calls that return normally, in order. -/
def returnedLines (client : TelemetryClient) :
    List Call → FileTree → List (Except Unencodable String)
  | [], _ => []
  | call :: rest, files =>
    let later := client.returnedLines rest (client.answer call files).2
    match (client.answer call files).1 with
    | .ok _ => call.line :: later
    | .error _ => later

section Calls

variable {client : TelemetryClient} {directory : PathName} {files after : FileTree}

theorem enabled_of_directoryPath? (located : client.directoryPath? = some directory) :
    client.enabled = true := by
  simp only [directoryPath?] at located
  split at located
  · cases located
  · cases located
  · rename_i text named
    simp only [enabled, named, Option.isSome_some]

/-- A call does to the logs what a write of its line does, or it is refused and does nothing. -/
theorem answer_spec (located : client.directoryPath? = some directory) (linkFree : files.LinkFree)
    (apart : IsApart directory) (noDirectory : (logPair directory files).current ≠ some .directory)
    {call : Call} {result : Except EmitError Unit}
    (answers : client.answer call files = (result, after)) :
    Leads directory files after ∧
      LogPair.Step client.maxLogSize call.line result (logPair directory files)
        (logPair directory after) := by
  simp only [answer, emit] at answers
  split at answers
  · cases answers
    exact ⟨Leads.refl linkFree, LogPair.Step.failed _ (LogPair.Failed.untouched _)⟩
  · simp only [enabled_of_directoryPath? located, located] at answers
    split at answers
    · rename_i impossible
      cases impossible
    · split at answers
      · rename_i written writes
        cases answers
        rcases write_spec linkFree apart noDirectory writes with ⟨leads, step⟩
        refine ⟨leads, ?_⟩
        cases step with
        | succeeded text lined step => exact LogPair.Step.succeeded text lined step
      · rename_i error partly writes
        cases answers
        rcases write_spec linkFree apart noDirectory writes with ⟨leads, step⟩
        refine ⟨leads, ?_⟩
        cases step with
        | failed _ step => exact LogPair.Step.failed _ step

/-- An invariant that holds of the logs at first holds after all calls, for the lines of those calls
that have returned normally. Each of these had a line. -/
theorem filesAfter_invariant {Invariant : List String → LogPair → Prop}
    (invariant : LogPair.IsInvariant client.maxLogSize Invariant)
    (located : client.directoryPath? = some directory) (apart : IsApart directory)
    (linkFree : files.LinkFree) (calls : List Call) (before : List String)
    (initially : Invariant before (logPair directory files)) :
    Leads directory files (client.filesAfter calls files) ∧
      ∃ lines, client.returnedLines calls files = lines.map Except.ok ∧
        Invariant (before ++ lines) (logPair directory (client.filesAfter calls files)) := by
  -- Each call starts from the tree and the lines that the calls before it have left.
  induction calls generalizing files before with
  | nil =>
      refine ⟨Leads.refl linkFree, [], rfl, ?_⟩
      rw [List.append_nil]
      exact initially
  | cons call rest ih =>
      have noDirectory := invariant.noDirectory before _ initially
      cases answers : client.answer call files with
      | mk result next =>
          rcases answer_spec located linkFree apart noDirectory answers with ⟨leads, step⟩
          simp only [filesAfter, returnedLines, answers]
          cases step with
          | succeeded text lined written =>
              have kept := invariant.written before text _ _ initially written
              rcases ih leads.linkFree (before ++ [text]) kept with ⟨more, lines, same, held⟩
              refine ⟨leads.trans more, text :: lines, ?_, ?_⟩
              · rw [lined, same, List.map_cons]
              · rw [List.append_assoc] at held
                exact held
          | failed error failed =>
              have kept := invariant.failed before _ _ initially failed
              rcases ih leads.linkFree before kept with ⟨more, lines, same, held⟩
              exact ⟨leads.trans more, lines, same, held⟩

end Calls

end TelemetryClient

end BuildSteps
