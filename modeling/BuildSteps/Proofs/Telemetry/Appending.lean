import BuildSteps.Proofs.Telemetry.Calls

/-!
# What a call that returns adds to the log

A call that returns has written its line at the end of the log. This file says so by what is read at
the path of the log afterwards, in any tree, and by what stands at the places of the two logs, in a
tree without links. The first follows from the contents of a file that was opened and written
(`FileTree.entryAt?_appendAt`), the second from the steps of a write (`answer_spec`).
-/

namespace BuildSteps.TelemetryClient

/-- A line is appended to the log in a directory. -/
structure Appends (client : TelemetryClient) (directory : PathName) (line : String)
    (before after : FileTree) : Prop where
  /-- Once the directory is made and the logs are rotated, the log has the line behind what is read
  from it; a log that is missing counts as an empty file. -/
  read : ∃ ready, client.prepare directory before = (.ok (), ready) ∧
    after.entryAt? (directory.child logName) =
      some (((ready.entryAt? (directory.child logName)).getD (.file "")).extended line)
  /-- Where there are no links, the line stands behind a log within the limit, or in a new log. -/
  written : before.LinkFree → IsApart directory →
    (logPair directory before).current ≠ some .directory →
    LogPair.Written client.maxLogSize line (logPair directory before) (logPair directory after)

section Returning

variable {client : TelemetryClient} {directory : PathName} {call : Call} {files after : FileTree}

/-- A call that answers without an error returns, and leaves some tree. -/
theorem exists_after_of_isOk (isOk : (client.answer call files).1.isOk = true) :
    ∃ after, client.answer call files = (.ok (), after) := by
  rcases returned : client.answer call files with ⟨result, after⟩
  rw [returned] at isOk
  cases result with
  | error error => cases isOk
  | ok done => exact ⟨after, rfl⟩

theorem unreserved_of_answer (returned : client.answer call files = (.ok (), after)) :
    reservedField? call.fields = none := by
  simp only [answer, emit] at returned
  split at returned
  · cases returned
  · assumption

/-- A write that succeeds has opened the log and has written a line at its end. -/
theorem opened_of_write {line : Except Unencodable String}
    (writes : client.write directory line files = (.ok (), after)) :
    ∃ text ready location opened, line = .ok text ∧
      client.prepare directory files = (.ok (), ready) ∧
      ready.openForAppend (directory.child logName) = .ok (location, opened) ∧
      after = opened.appendAt location text := by
  simp only [write] at writes
  split at writes
  · cases writes
  · rename_i ready prepares
    simp only [append] at writes
    split at writes
    · cases writes
    · rename_i location opened opens
      split at writes
      · cases writes
      · rename_i text
        cases writes
        exact ⟨text, ready, location, opened, rfl, prepares, opens, rfl⟩

/-- A call that returns at an enabled client is a write that returns. -/
theorem write_of_answer (located : client.directoryPath? = some directory)
    (returned : client.answer call files = (.ok (), after)) :
    client.write directory call.line files = (.ok (), after) := by
  have unreserved := unreserved_of_answer returned
  simp only [answer, emit, unreserved, enabled_of_directoryPath? located, located] at returned
  split at returned
  · rename_i impossible
    cases impossible
  · split at returned
    · rename_i written writes
      cases returned
      exact writes
    · cases returned

/-- A call that returns has a line, which it appends to the log. -/
theorem appends_of_answer (located : client.directoryPath? = some directory)
    (returned : client.answer call files = (.ok (), after)) :
    ∃ line, call.line = .ok line ∧ client.Appends directory line files after := by
  rcases opened_of_write (write_of_answer located returned) with
    ⟨line, ready, location, opened, lined, prepares, opens, rfl⟩
  refine ⟨line, lined, ⟨ready, prepares, FileTree.entryAt?_appendAt opens line⟩, ?_⟩
  intro linkFree apart noDirectory
  cases (answer_spec located linkFree apart noDirectory returned).2 with
  | succeeded text same written =>
      rw [lined, Except.ok.injEq] at same
      subst same
      exact written

/-- A line that is appended where the path of the log leads to nothing is all that is read there. -/
theorem Appends.entryAt?_of_none {line : String}
    (appends : client.Appends directory line files after)
    (nothing : (client.prepare directory files).2.entryAt? (directory.child logName) = none) :
    after.entryAt? (directory.child logName) = some (.file line) := by
  rcases appends.read with ⟨ready, prepares, read⟩
  rw [prepares] at nothing
  rw [read, nothing, Option.getD_none, extended_empty]

end Returning

end BuildSteps.TelemetryClient
