import BuildSteps.Proofs.Telemetry.Retention

/-!
# How far the logs grow

A log is moved away only when it is larger than the limit, and a line is written only into a log
that is not. So a log is never longer than the limit and one line, and an older log is always
longer than the limit. Both logs start where nothing stood.

The two bounds depend on each other: the older log is a log that was too large, and its upper bound
is the one that it had before it was moved. A call that fails may move a log and leave an empty one
behind, which keeps both.
-/

namespace BuildSteps

namespace LogPair

/-- Two logs are within bounds if both are files where they exist, neither is longer than the limit
and one line, and the older one is longer than the limit. -/
structure Bounded (limit : Int) (longest : Nat) (pair : LogPair) : Prop where
  older : ∀ entry, pair.older = some entry → ∃ content, entry = .file content ∧
    limit < content.utf8ByteSize ∧ content.utf8ByteSize ≤ limit + longest
  current : ∀ entry, pair.current = some entry → ∃ content, entry = .file content ∧
    content.utf8ByteSize ≤ limit + longest

variable {limit : Int} {longest : Nat} {before after : LogPair}

theorem Bounded.olderOfCurrent (bounded : Bounded limit longest before) {entry : Entry}
    (stands : before.current = some entry)
    (large : limit < (FileTree.entrySize entry : Int)) :
    ∃ content, entry = .file content ∧ limit < content.utf8ByteSize ∧
      content.utf8ByteSize ≤ limit + longest := by
  rcases bounded.current entry stands with ⟨content, rfl, fits⟩
  exact ⟨content, rfl, large, fits⟩

theorem file_fits {content : String} (fits : (content.utf8ByteSize : Int) ≤ limit + longest)
    (entry : Entry) (same : some (Entry.file content) = some entry) :
    ∃ content, entry = .file content ∧ content.utf8ByteSize ≤ limit + longest := by
  cases same
  exact ⟨content, rfl, fits⟩

/-- The bounds are kept by a line that is written, with or without a rotation. -/
theorem Bounded.written (nonnegative : 0 ≤ limit) (bounded : Bounded limit longest before)
    {text : String} (short : text.utf8ByteSize ≤ longest)
    (step : Written limit text before after) : Bounded limit longest after := by
  have lineFits : (text.utf8ByteSize : Int) ≤ limit + longest := by omega
  cases step with
  | created older => exact ⟨bounded.older, file_fits lineFits⟩
  | extended older entry fits =>
      rcases bounded.current entry rfl with ⟨content, rfl, -⟩
      refine ⟨bounded.older, file_fits ?_⟩
      simp only [FileTree.entrySize] at fits
      rw [String.utf8ByteSize_append]
      omega
  | restarted older entry large =>
      refine ⟨?_, file_fits lineFits⟩
      intro moved same
      cases same
      exact bounded.olderOfCurrent rfl large

/-- The bounds are kept by a write that fails at any of its steps. -/
theorem Bounded.failed (nonnegative : 0 ≤ limit) (bounded : Bounded limit longest before)
    (step : Failed limit before after) : Bounded limit longest after := by
  have emptyFits : ((String.utf8ByteSize "" : Nat) : Int) ≤ limit + longest := by
    rw [String.utf8ByteSize_empty]
    omega
  cases step with
  | untouched pair => exact bounded
  | opened older => exact ⟨bounded.older, file_fits emptyFits⟩
  | cleared older entry large => exact ⟨by simp, bounded.current⟩
  | shifted older entry large =>
      refine ⟨?_, by simp⟩
      intro moved same
      cases same
      exact bounded.olderOfCurrent rfl large
  | reopened older entry large =>
      refine ⟨?_, file_fits emptyFits⟩
      intro moved same
      cases same
      exact bounded.olderOfCurrent rfl large

/-- The log stays a regular file when a line is written. -/
theorem Written.isRegular {text : String} (step : Written limit text before after)
    (regular : IsRegular before.current) : IsRegular after.current := by
  cases step with
  | created older => exact isRegular_file text
  | extended older entry fits =>
      rcases regular entry rfl with ⟨content, rfl⟩
      exact isRegular_file _
  | restarted older entry large => exact isRegular_file text

/-- The log stays a regular file, or absent, when a write fails. -/
theorem Failed.isRegular (step : Failed limit before after) (regular : IsRegular before.current) :
    IsRegular after.current := by
  cases step with
  | untouched pair => exact regular
  | opened older => exact isRegular_file ""
  | cleared older entry large => exact regular
  | shifted older entry large => exact isRegular_none
  | reopened older entry large => exact isRegular_file ""

/-- The bounds hold as long as no line was too long. That the log is a file holds in any case. -/
theorem bounded_isInvariant (nonnegative : 0 ≤ limit) (longest : Nat) :
    IsInvariant limit fun lines pair =>
      IsRegular pair.current ∧
        ((∀ line ∈ lines, line.utf8ByteSize ≤ longest) → Bounded limit longest pair) where
  noDirectory := by
    rintro lines pair ⟨regular, -⟩ directory
    rcases regular _ directory with ⟨content, impossible⟩
    cases impossible
  written := by
    rintro lines text before after ⟨regular, bounded⟩ step
    refine ⟨step.isRegular regular, ?_⟩
    intro short
    have earlier : Bounded limit longest before := by
      apply bounded
      intro line occurs
      exact short line (List.mem_append_left _ occurs)
    exact earlier.written nonnegative (short text (by simp)) step
  failed := by
    rintro lines before after ⟨regular, bounded⟩ step
    exact ⟨step.isRegular regular, fun short => (bounded short).failed nonnegative step⟩

end LogPair

namespace TelemetryClient

theorem exists_call_of_returned {client : TelemetryClient} {calls : List Call} {files : FileTree}
    {line : Except Unencodable String} (returned : line ∈ client.returnedLines calls files) :
    ∃ call ∈ calls, call.line = line := by
  induction calls generalizing files with
  | nil => cases returned
  | cons call rest ih =>
      have later : ∀ {after : FileTree}, line ∈ client.returnedLines rest after →
          ∃ other ∈ call :: rest, other.line = line := by
        intro after occurs
        rcases ih occurs with ⟨other, listed, same⟩
        exact ⟨other, List.mem_cons_of_mem _ listed, same⟩
      simp only [returnedLines] at returned
      split at returned
      · rcases List.mem_cons.mp returned with rfl | occurs
        · exact ⟨call, List.mem_cons_self .., rfl⟩
        · exact later occurs
      · exact later returned

/-- After any calls, in whichever way some of them may have failed, each of the two logs is at most
one line longer than the limit, the older one is longer than the limit, and no file was created at
any other place. -/
theorem filesAfter_bounded (client : TelemetryClient) (positive : 1 ≤ client.maxMegabytes)
    {directory : PathName} {files : FileTree}
    (located : client.directoryPath? = some directory) (linkFree : files.LinkFree)
    (apart : IsApart directory)
    (noOlder : files.get? (files.placeIn directory olderLogName) = none)
    (noCurrent : files.get? (files.placeIn directory logName) = none) (longest : Nat)
    (calls : List Call)
    (short : ∀ call ∈ calls, ∀ line, call.line = .ok line → line.utf8ByteSize ≤ longest) :
    let limit := client.maxMegabytes * 1048576
    let after := client.filesAfter calls files
    (∀ entry, after.get? (files.placeIn directory olderLogName) = some entry →
        ∃ content, entry = .file content ∧ limit < content.utf8ByteSize ∧
          content.utf8ByteSize ≤ limit + longest) ∧
      (∀ entry, after.get? (files.placeIn directory logName) = some entry →
        ∃ content, entry = .file content ∧ content.utf8ByteSize ≤ limit + longest) ∧
      ∀ location content, location ≠ files.placeIn directory olderLogName →
        location ≠ files.placeIn directory logName →
        after.get? location = some (.file content) →
        files.get? location = some (.file content) := by
  intro limit after
  have size : client.maxLogSize = limit := by
    simp only [maxLogSize, limit, Int.mul_assoc]
    rfl
  have nonnegative : 0 ≤ client.maxLogSize := by
    rw [size]
    omega
  have start : logPair directory files = ⟨none, none⟩ := by
    simp only [logPair, noOlder, noCurrent]
  have initially : IsRegular (logPair directory files).current ∧
      ((∀ line ∈ ([] : List String), line.utf8ByteSize ≤ longest) →
        LogPair.Bounded client.maxLogSize longest (logPair directory files)) := by
    rw [start]
    exact ⟨isRegular_none, fun _ => ⟨by simp, by simp⟩⟩
  rcases filesAfter_invariant (LogPair.bounded_isInvariant nonnegative longest) located apart
    linkFree calls [] initially with ⟨leads, lines, returned, -, bounded⟩
  have linesShort : ∀ line ∈ lines, line.utf8ByteSize ≤ longest := by
    intro line occurs
    have written : Except.ok line ∈ client.returnedLines calls files := by
      rw [returned]
      exact List.mem_map_of_mem occurs
    rcases exists_call_of_returned written with ⟨call, made, same⟩
    exact short call made line same
  rcases bounded linesShort with ⟨olderBounded, currentBounded⟩
  simp only [logPair, placeIn_eq leads.workingDirectory, size] at olderBounded currentBounded
  refine ⟨olderBounded, currentBounded, ?_⟩
  intro location content notOlder notLog stands
  rcases leads.others location notLog notOlder with same | ⟨-, directoryThere, -⟩
  · rw [← same]
    exact stands
  · rw [directoryThere] at stands
    cases stands

/-- Of three calls under a limit of one megabyte the second fails. No line exceeds 80 bytes. -/
theorem filesAfter_bounded_short :
    let client : TelemetryClient := { directory := some "logs", maxMegabytes := 1 }
    let directory : PathName := ⟨.workingDirectory, ["logs"]⟩
    let older := FileTree.empty.placeIn directory olderLogName
    let current := FileTree.empty.placeIn directory logName
    let calls : List Call :=
      [⟨0, .text "step", []⟩, ⟨1, .text "step", [("value", .bytes "b")]⟩,
        ⟨2, .text "step", [("value", .int (-7))]⟩]
    let after := client.filesAfter calls FileTree.empty
    (client.returnedLines calls FileTree.empty).length = 2 ∧
      (∀ entry, after.get? older = some entry → ∃ content, entry = .file content ∧
        1048576 < (content.utf8ByteSize : Int) ∧ (content.utf8ByteSize : Int) ≤ 1048656) ∧
      (∀ entry, after.get? current = some entry → ∃ content, entry = .file content ∧
        (content.utf8ByteSize : Int) ≤ 1048656) ∧
      ∀ location content, location ≠ older → location ≠ current →
        after.get? location = some (.file content) →
        FileTree.empty.get? location = some (.file content) := by
  intro client directory older current calls after
  have located : client.directoryPath? = some directory := by decide
  have apart : IsApart directory := by
    simp [IsApart, directory, logName, olderLogName]
  have short : ∀ call ∈ calls, ∀ line, call.line = .ok line → line.utf8ByteSize ≤ 80 := by
    have shortOrNone : ∀ call ∈ calls,
        (call.line.toOption.map String.utf8ByteSize).getD 0 ≤ 80 := by decide +kernel
    intro call made line lined
    have fits := shortOrNone call made
    rw [lined] at fits
    exact fits
  have two : (client.returnedLines calls FileTree.empty).length = 2 := by decide +kernel
  exact ⟨two, filesAfter_bounded client (by decide) located FileTree.linkFree_empty apart
    (by decide) (by decide) 80 calls short⟩

end TelemetryClient

end BuildSteps
