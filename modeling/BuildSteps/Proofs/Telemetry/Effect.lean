import BuildSteps.Proofs.Files.Making
import BuildSteps.Proofs.Telemetry.Calls

/-!
# The effect of one call

A call makes up to six requests, each of which may fail, and the record may turn out to have no
written form after all of them. Wherever it ends, the tree is in one of few states: the two logs are
as they were, or the log has become the older one, and a log that is missing then may have been
created empty. Apart from the two logs nothing changes but directories that are made on the way.

Two of the states that the requests taken one by one would allow do not occur. The older log is
removed only when the log can be renamed, since both are in reach then, and a log that was renamed
can be created again. So no place of a log that was taken is left empty.
-/

namespace BuildSteps

namespace LogPair

variable {limit : Int} {before after : LogPair}

/-- A written line starts the log, extends it while it is in its limit, or follows a rotation. -/
theorem Written.cases {line : String} (step : Written limit line before after) :
    (before.current = none ∧ after.current = some (.file line) ∧ after.older = before.older) ∨
      ∃ entry, before.current = some entry ∧
        ((FileTree.entrySize entry ≤ limit ∧ after.current = some (entry.extended line) ∧
            after.older = before.older) ∨
          (limit < FileTree.entrySize entry ∧ after.current = some (.file line) ∧
            after.older = some entry)) := by
  cases step with
  | created older => exact Or.inl ⟨rfl, rfl, rfl⟩
  | extended older entry fits => exact Or.inr ⟨entry, rfl, Or.inl ⟨fits, rfl, rfl⟩⟩
  | restarted older entry large => exact Or.inr ⟨entry, rfl, Or.inr ⟨large, rfl, rfl⟩⟩

/-- If no place of the two logs that was taken is left empty, a write that fails leaves them as they
were, or a log beyond the limit as the older log, up to an empty log that is new. -/
theorem Failed.cases (step : Failed limit before after)
    (olderStays : before.older.isSome → after.older.isSome)
    (currentStays : before.current.isSome → after.current.isSome) :
    (after.older = before.older ∧
        (after.current = before.current ∨
          (before.current = none ∧ after.current = some (.file "")))) ∨
      ∃ entry, before.current = some entry ∧ limit < FileTree.entrySize entry ∧
        after.older = some entry ∧ after.current = some (.file "") := by
  cases step with
  | untouched pair => exact Or.inl ⟨rfl, Or.inl rfl⟩
  | opened older => exact Or.inl ⟨rfl, Or.inr ⟨rfl, rfl⟩⟩
  | cleared older entry large =>
      cases older with
      | none => exact Or.inl ⟨rfl, Or.inl rfl⟩
      | some former => cases olderStays rfl
  | shifted older entry large => cases currentStays rfl
  | reopened older entry large => exact Or.inr ⟨entry, rfl, large, rfl, rfl⟩

end LogPair

namespace TelemetryClient

theorem maxLogSize_eq (client : TelemetryClient) :
    client.maxLogSize = client.maxMegabytes * 1048576 := by
  simp only [maxLogSize, Int.mul_assoc]
  rfl

section Shifting

variable {files after : FileTree} {directory : PathName} {location : Location} {entry : Entry}

/-- An older log whose path is refused cannot be replaced. -/
theorem shiftLogs_of_refused (inReach : files.InReach directory location logName)
    (stands : files.get? (location ++ [logName]) = some entry) {refusal : FileError}
    (refused : FileTree.refusal? (directory.child olderLogName) = some refusal) :
    ∃ error, shiftLogs (directory.child logName) (directory.child olderLogName) files =
      (.error error, files) := by
  rcases FileTree.hasEntry_of_refused refused files with ⟨error, seen⟩ | seen
  · exact ⟨error, by simp only [shiftLogs, seen]⟩
  · simp only [shiftLogs, seen, Bool.false_eq_true, if_false, FileTree.rename,
      inReach.locate_of_some stands, FileTree.locate_of_refused refused]
    exact ⟨_, rfl⟩

/-- An older log that is a directory cannot be replaced. -/
theorem shiftLogs_of_directory (inReach : files.InReach directory location olderLogName)
    (stands : files.get? (location ++ [olderLogName]) = some .directory) :
    ∃ error, shiftLogs (directory.child logName) (directory.child olderLogName) files =
      (.error error, files) := by
  simp only [shiftLogs, inReach.hasEntry_eq, stands, Option.isSome_some, if_true,
    inReach.unlink_eq stands]
  exact ⟨_, rfl⟩

/-- What stands at the place of the older log is removed, unless it is a directory. -/
theorem exists_cleared (inReach : files.InReach directory location olderLogName)
    (room : files.get? (location ++ [olderLogName]) ≠ some .directory) :
    ∃ cleared, (if (files.get? (location ++ [olderLogName])).isSome
          then files.unlink (directory.child olderLogName) else .ok files) = .ok cleared ∧
      files.KeepsDirectories cleared ∧ cleared.LinkFree ∧
      cleared.workingDirectory = files.workingDirectory ∧
      cleared.get? (location ++ [olderLogName]) ≠ some .directory ∧
      cleared.get? (location ++ [logName]) = files.get? (location ++ [logName]) := by
  cases found : files.get? (location ++ [olderLogName]) with
  | none =>
      have linkFree := inReach.linkFree
      refine ⟨files, rfl, FileTree.KeepsDirectories.refl files, linkFree, rfl, ?_, rfl⟩
      rw [found]
      simp
  | some other =>
      have noDirectory : other ≠ .directory := by
        rintro rfl
        exact room found
      have apart : location ++ [logName] ≠ location ++ [olderLogName] := by
        simp [logName_ne_olderLogName]
      refine ⟨files.remove (location ++ [olderLogName]), ?_, ?_, inReach.linkFree.remove _, rfl,
        ?_, ?_⟩
      · rw [inReach.unlink_eq found, if_neg noDirectory]
        rfl
      · exact FileTree.KeepsDirectories.remove (FileTree.isDirectoryAt_eq_false_iff.mpr room)
      · rw [FileTree.get?_remove, if_pos ⟨by simp, rfl⟩]
        simp
      · rw [FileTree.get?_remove, if_neg fun both => apart both.2]

/-- The logs are shifted if both are in reach and the older one is not a directory. -/
theorem shiftLogs_of_room (inReach : files.InReach directory location logName)
    (olderInReach : files.InReach directory location olderLogName)
    (stands : files.get? (location ++ [logName]) = some entry) (noDirectory : entry ≠ .directory)
    (room : files.get? (location ++ [olderLogName]) ≠ some .directory) :
    ∃ after, shiftLogs (directory.child logName) (directory.child olderLogName) files =
      (.ok (), after) ∧ files.KeepsDirectories after := by
  rcases exists_cleared olderInReach room with
    ⟨cleared, clears, keeps, linkFree, same, roomThere, remains⟩
  rw [stands] at remains
  rcases (inReach.of_keeps linkFree same keeps).exists_rename
    (olderInReach.of_keeps linkFree same keeps) remains noDirectory roomThere with
    ⟨renamed, renames, keepsToo⟩
  refine ⟨renamed, ?_, keeps.trans keepsToo⟩
  simp only [shiftLogs, olderInReach.hasEntry_eq, clears, renames]

/-- Shifting the logs either succeeds, or changes nothing because the older log is refused or is a
directory. -/
theorem shiftLogs_cases (inReach : files.InReach directory location logName)
    (stands : files.get? (location ++ [logName]) = some entry) (noDirectory : entry ≠ .directory) :
    (∃ after, shiftLogs (directory.child logName) (directory.child olderLogName) files =
        (.ok (), after) ∧ files.KeepsDirectories after) ∨
      ∃ error, shiftLogs (directory.child logName) (directory.child olderLogName) files =
        (.error error, files) := by
  cases refused : FileTree.refusal? (directory.child olderLogName) with
  | some refusal => exact Or.inr (shiftLogs_of_refused inReach stands refused)
  | none =>
      have olderInReach : files.InReach directory location olderLogName :=
        ⟨inReach.linkFree, inReach.leads, isProperName_olderLogName, by decide, refused⟩
      by_cases occupied : files.get? (location ++ [olderLogName]) = some .directory
      · exact Or.inr (shiftLogs_of_directory olderInReach occupied)
      · exact Or.inl (shiftLogs_of_room inReach olderInReach stands noDirectory occupied)

end Shifting

/-- What was taken stays taken: all directories, and the places of the two logs. -/
structure KeepsTaken (directory : PathName) (files after : FileTree) : Prop where
  directories : files.KeepsDirectories after
  older : (logPair directory files).older.isSome → (logPair directory after).older.isSome
  current : (logPair directory files).current.isSome → (logPair directory after).current.isSome

section Keeping

variable {client : TelemetryClient} {directory : PathName} {files after : FileTree}

theorem KeepsTaken.of_logPair (keeps : files.KeepsDirectories after)
    (same : logPair directory after = logPair directory files) :
    KeepsTaken directory files after := by
  refine ⟨keeps, ?_, ?_⟩
  all_goals
    rw [same]
    exact id

/-- Places already taken stay so when directories stay and an entry stands at the log. -/
theorem KeepsTaken.of_current (keeps : files.KeepsDirectories after) {entry : Entry}
    (pair : logPair directory after = ⟨(logPair directory files).older, some entry⟩) :
    KeepsTaken directory files after := by
  refine ⟨keeps, ?_, ?_⟩
  · rw [pair]
    exact id
  · rw [pair]
    exact fun _ => rfl

theorem KeepsTaken.trans {next : FileTree} (first : KeepsTaken directory files after)
    (second : KeepsTaken directory after next) : KeepsTaken directory files next :=
  ⟨first.directories.trans second.directories, fun taken => second.older (first.older taken),
    fun taken => second.current (first.current taken)⟩

/-- A log found oversized is in reach below its directory. -/
theorem inReach_of_isOversized (linkFree : files.LinkFree)
    (oversized : client.isOversized (directory.child logName) files = true) :
    files.InReach directory (files.locationOf directory) logName := by
  simp only [isOversized, FileTree.entryAt?] at oversized
  split at oversized
  · rename_i entry found
    split at found
    · rename_i located
      exact FileTree.inReach_of_locate linkFree isProperName_logName located
    · cases found
  · cases oversized

/-- A rotation changes nothing, or it moves the log, which then is in reach still. -/
theorem rotate_cases (linkFree : files.LinkFree)
    (noDirectory : (logPair directory files).current ≠ some .directory)
    {result : Except FileError Unit} (rotates : client.rotate directory files = (result, after)) :
    after = files ∨
      (result = .ok () ∧ files.KeepsDirectories after ∧
        after.InReach directory (after.locationOf directory) logName ∧
        ∃ entry, logPair directory after = ⟨some entry, none⟩) := by
  by_cases oversized : client.isOversized (directory.child logName) files = true
  · have inReach := inReach_of_isOversized linkFree oversized
    rcases exists_of_isOversized linkFree oversized with ⟨entry, stands, -⟩
    have noDirectoryThere : entry ≠ .directory := by
      rintro rfl
      exact noDirectory stands
    simp only [rotate, inReach.hasEntry_eq, oversized, if_true] at rotates
    rcases shiftLogs_cases inReach stands noDirectoryThere with
      ⟨shifted, shifts, keeps⟩ | ⟨error, shifts⟩
    · rcases shiftLogs_spec linkFree stands noDirectoryThere shifts with
        ⟨leads, ⟨-, pair⟩ | ⟨⟨error, impossible⟩, -⟩⟩
      · rw [shifts] at rotates
        cases rotates
        have still := inReach.of_keeps leads.linkFree leads.workingDirectory keeps
        rw [← FileTree.locationOf_eq leads.workingDirectory] at still
        exact Or.inr ⟨rfl, keeps, still, entry, pair⟩
      · cases impossible
    · rw [shifts] at rotates
      cases rotates
      exact Or.inl rfl
  · simp only [rotate, oversized] at rotates
    split at rotates
    · cases rotates
      exact Or.inl rfl
    · cases rotates
      exact Or.inl rfl

theorem appendAt_keeps (files : FileTree) (location : Location) (text : String) :
    files.KeepsDirectories (files.appendAt location text) := by
  simp only [FileTree.appendAt]
  split
  · rename_i content there
    apply FileTree.KeepsDirectories.put
    rw [FileTree.isDirectoryAt_eq_false_iff, there]
    simp
  · exact FileTree.KeepsDirectories.refl files

/-- Appending a line takes no directory away, whatever its result. -/
theorem append_keeps (linkFree : files.LinkFree) {line : Except Unencodable String}
    {result : Except LogError Unit} (appends : append directory line files = (result, after)) :
    files.KeepsDirectories after := by
  simp only [append] at appends
  split at appends
  · cases appends
    exact FileTree.KeepsDirectories.refl files
  · rename_i location opened opens
    have keeps : files.KeepsDirectories opened := by
      rcases FileTree.openForAppend_child linkFree isProperName_logName opens with
        ⟨-, ⟨rfl, -⟩ | ⟨rfl, unused⟩⟩
      · exact FileTree.KeepsDirectories.refl opened
      · apply FileTree.KeepsDirectories.put
        rw [FileTree.isDirectoryAt_eq_false_iff, unused]
        simp
    split at appends
    · cases appends
      exact keeps
    · cases appends
      exact keeps.trans (appendAt_keeps opened location _)

/-- Places of the logs that were taken are so after a line was appended or refused. -/
theorem append_keepsTaken (linkFree : files.LinkFree) {line : Except Unencodable String}
    {result : Except LogError Unit} (appends : append directory line files = (result, after)) :
    KeepsTaken directory files after := by
  have keeps := append_keeps linkFree appends
  rcases (append_spec linkFree appends).2 with ⟨-, text, -, -, pair⟩ | ⟨-, pair | pair⟩
  · exact KeepsTaken.of_current keeps pair
  · exact KeepsTaken.of_logPair keeps pair
  · exact KeepsTaken.of_current keeps pair

/-- A log in reach is there at the end, whether or not a line is written into it. -/
theorem isSome_of_append (inReach : files.InReach directory (files.locationOf directory) logName)
    (room : (logPair directory files).current ≠ some .directory)
    {line : Except Unencodable String} {result : Except LogError Unit}
    (appends : append directory line files = (result, after)) :
    (logPair directory after).current.isSome := by
  rcases inReach.openForAppend_eq room with ⟨opened, opens⟩
  rcases open_spec inReach.linkFree opens with ⟨place, leads, pair⟩
  simp only [append, opens] at appends
  cases line with
  | error reason =>
      cases appends
      rw [pair]
      rfl
  | ok text =>
      cases appends
      rw [place, (appendAt_spec leads.linkFree (congrArg LogPair.current pair) text).2]
      rfl

/-- Places of the logs that were taken are so after a write, also after one that fails between
removal and renaming. -/
theorem write_keepsTaken (linkFree : files.LinkFree) (apart : IsApart directory)
    (noDirectory : (logPair directory files).current ≠ some .directory)
    {line : Except Unencodable String} {result : Except LogError Unit}
    (writes : client.write directory line files = (result, after)) :
    KeepsTaken directory files after := by
  rcases ensureDirectory_leads linkFree apart with ⟨made, same⟩
  have keeps := (FileTree.ensureDirectory_made linkFree directory).keeps
  rcases ended : files.ensureDirectory directory with ⟨ensured, ready⟩
  rw [ended] at made same keeps
  have first : KeepsTaken directory files ready := KeepsTaken.of_logPair keeps same
  rw [← same] at noDirectory
  simp only [write, prepare, ended] at writes
  cases ensured with
  | error error =>
      cases writes
      exact first
  | ok done =>
      rcases rotates : client.rotate directory ready with ⟨rotation, turned⟩
      simp only [rotates] at writes
      rcases rotate_cases made.linkFree noDirectory rotates with
        rfl | ⟨rfl, keepsNext, inReach, entry, pair⟩
      · cases rotation with
        | error error =>
            cases writes
            exact first
        | ok done => exact first.trans (append_keepsTaken made.linkFree writes)
      · -- The place of the log is empty for a moment, but the log is in reach, so it is created.
        have room : (logPair directory turned).current ≠ some .directory := by
          rw [pair]
          simp
        have appended := append_keepsTaken inReach.linkFree writes
        refine first.trans ⟨keepsNext.trans appended.directories, ?_, ?_⟩
        · intro _
          apply appended.older
          rw [pair]
          rfl
        · intro _
          exact isSome_of_append inReach room writes

/-- Places of the logs that were taken are so after every answer. -/
theorem answer_keepsTaken (located : client.directoryPath? = some directory)
    (linkFree : files.LinkFree) (apart : IsApart directory)
    (noDirectory : (logPair directory files).current ≠ some .directory) {call : Call}
    {result : Except EmitError Unit} (answers : client.answer call files = (result, after)) :
    KeepsTaken directory files after := by
  simp only [answer, emit, enabled_of_directoryPath? located, located] at answers
  split at answers
  · cases answers
    exact KeepsTaken.of_logPair (FileTree.KeepsDirectories.refl files) rfl
  · split at answers
    · rename_i impossible
      cases impossible
    · split at answers
      all_goals
        rename_i writes
        cases answers
        exact write_keepsTaken linkFree apart noDirectory writes

end Keeping

/-- A call changes nothing but the two logs, and directories that it makes on the way; it takes no
directory away. If it returns, its line has been written behind a log within the limit, or into a
new log after one beyond the limit has become the older log. If it fails, both logs are as before,
or a log beyond the limit has become the older log; a log that is missing then may have been created
empty. -/
theorem answer_confined (client : TelemetryClient) {directory : PathName} {files : FileTree}
    (located : client.directoryPath? = some directory) (linkFree : files.LinkFree)
    (apart : IsApart directory)
    (noDirectory : files.get? (files.placeIn directory logName) ≠ some .directory) (call : Call) :
    let limit := client.maxMegabytes * 1048576
    let log := files.placeIn directory logName
    let older := files.placeIn directory olderLogName
    let after := (client.answer call files).2
    (∀ location, location ≠ log → location ≠ older →
        after.get? location = files.get? location ∨
          (files.get? location = none ∧ after.get? location = some .directory ∧
            ∃ front, front <+: directory.names ∧
              location = FileTree.resolve (files.start directory.anchor).location front)) ∧
      (∀ location, files.get? location = some .directory →
        after.get? location = some .directory) ∧
      ((client.answer call files).1 = .ok () → ∃ line, call.line = .ok line ∧
        ((files.get? log = none ∧ after.get? log = some (.file line) ∧
            after.get? older = files.get? older) ∨
          ∃ entry, files.get? log = some entry ∧
            ((FileTree.entrySize entry ≤ limit ∧ after.get? log = some (entry.extended line) ∧
                after.get? older = files.get? older) ∨
              (limit < FileTree.entrySize entry ∧ after.get? log = some (.file line) ∧
                after.get? older = some entry)))) ∧
      ∀ error, (client.answer call files).1 = .error error →
        (after.get? older = files.get? older ∧
            (after.get? log = files.get? log ∨
              (files.get? log = none ∧ after.get? log = some (.file "")))) ∨
          ∃ entry, files.get? log = some entry ∧ limit < FileTree.entrySize entry ∧
            after.get? older = some entry ∧ after.get? log = some (.file "") := by
  intro limit log older after
  have size : client.maxLogSize = limit := client.maxLogSize_eq
  rcases answers : client.answer call files with ⟨result, next⟩
  obtain rfl : after = next := congrArg Prod.snd answers
  rcases answer_spec located linkFree apart noDirectory answers with ⟨leads, step⟩
  rcases answer_keepsTaken located linkFree apart noDirectory answers with
    ⟨keeps, olderStays, currentStays⟩
  have behind : logPair directory after = ⟨after.get? older, after.get? log⟩ := by
    simp only [logPair, placeIn_eq leads.workingDirectory, older, log]
  rw [size, behind] at step
  rw [behind] at olderStays currentStays
  refine ⟨?_, ?_, ?_, ?_⟩
  · intro location notLog notOlder
    rcases leads.others location notLog notOlder with
      same | ⟨unused, placed, above, name, beginning, proper, place⟩
    · exact Or.inl same
    · rw [← FileTree.resolve_concat _ _ proper] at place
      exact Or.inr ⟨unused, placed, above ++ [name], beginning, place⟩
  · intro location directoryThere
    rw [← FileTree.isDirectoryAt_iff] at directoryThere ⊢
    exact keeps location directoryThere
  · rintro rfl
    cases step with
    | succeeded line lined written => exact ⟨line, lined, written.cases⟩
  · rintro error rfl
    cases step with
    | failed _ failed => exact failed.cases olderStays currentStays

/-- Under a limit of nothing this call makes a directory on the way, moves the log away in place of
an older one, and then fails because of a value. -/
theorem answer_confined_reopened :
    let client : TelemetryClient := { directory := some "new/../logs", maxMegabytes := 0 }
    let location := ["work", "logs"]
    let log := location ++ [logName]
    let older := location ++ [olderLogName]
    let files := ((FileTree.empty.put location .directory).put log (.file "first\n")).put older
      (.file "former\n")
    let call : Call := ⟨0, .text "step", [("value", .bytes "b")]⟩
    let after := (client.answer call files).2
    after.get? ["work", "new"] = some .directory ∧
      (∀ other, other ≠ log → other ≠ older → after.get? other = files.get? other ∨
        (files.get? other = none ∧ after.get? other = some .directory ∧
          ∃ front, front <+: ["new", "..", "logs"] ∧
            other = FileTree.resolve ["work"] front)) ∧
      (∀ other, files.get? other = some .directory → after.get? other = some .directory) ∧
      ∃ error, (client.answer call files).1 = .error error ∧
        ((after.get? older = some (.file "former\n") ∧
            (after.get? log = some (.file "first\n") ∨
              (files.get? log = none ∧ after.get? log = some (.file "")))) ∨
          ∃ entry, files.get? log = some entry ∧ (0 : Int) < FileTree.entrySize entry ∧
            after.get? older = some entry ∧ after.get? log = some (.file "")) := by
  intro client location log older files call after
  have located : client.directoryPath? = some ⟨.workingDirectory, ["new", "..", "logs"]⟩ := by
    decide
  have apart : IsApart ⟨.workingDirectory, ["new", "..", "logs"]⟩ := by
    simp [IsApart, logName, olderLogName]
  have linkFree : files.LinkFree := by
    refine ((FileTree.linkFree_empty.put ?_).put ?_).put ?_
    all_goals
      intro target impossible
      cases impossible
  have made : after.get? ["work", "new"] = some .directory := by decide +kernel
  have isError : (client.answer call files).1.isOk = false := by decide +kernel
  rcases answer_confined client located linkFree apart (by decide) call with
    ⟨frame, keeps, -, failed⟩
  refine ⟨made, frame, keeps, ?_⟩
  cases result : (client.answer call files).1 with
  | ok done =>
      rw [result] at isError
      cases isError
  | error error => exact ⟨error, rfl, failed error result⟩

end TelemetryClient

end BuildSteps
