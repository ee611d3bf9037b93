import BuildSteps.Proofs.Files.Contents
import BuildSteps.Proofs.Files.Directories
import BuildSteps.Telemetry.Client

/-!
# The two logs

The writes of a client are seen here from what stands at the places of the log and of the older log.
`LogPair.Written` lists what a write that succeeds does to the two, and `LogPair.Failed` what one
that fails may leave, which depends on how far it came: a log that was too large may have been
moved, or the older log removed, and a log may have been created although nothing was written into
it. `LogPair.Step` puts the two together.

The main statement, `TelemetryClient.write_spec`, shows that a write in a link-free tree does one of
these, whichever of its steps fails. The older log may be anything, also a directory. The log must
not be a directory, and no part of the path of the directory is named like one of the two.
-/

namespace BuildSteps

/-- What stands at the places of the older log and of the log. -/
structure LogPair where
  older : Option Entry
  current : Option Entry

namespace LogPair

/-- What a write of a line that succeeds does to two logs, under a limit to the size of the log. -/
inductive Written (limit : Int) (line : String) : LogPair → LogPair → Prop
  | created (older : Option Entry) :
      Written limit line ⟨older, none⟩ ⟨older, some (.file line)⟩
  | extended (older : Option Entry) (entry : Entry) :
      (FileTree.entrySize entry : Int) ≤ limit →
      Written limit line ⟨older, some entry⟩ ⟨older, some (entry.extended line)⟩
  | restarted (older : Option Entry) (entry : Entry) :
      limit < (FileTree.entrySize entry : Int) →
      Written limit line ⟨older, some entry⟩ ⟨some entry, some (.file line)⟩

/-- What a write that fails may do to two logs, under a limit to the size of the log. -/
inductive Failed (limit : Int) : LogPair → LogPair → Prop
  | untouched (pair : LogPair) : Failed limit pair pair
  | opened (older : Option Entry) : Failed limit ⟨older, none⟩ ⟨older, some (.file "")⟩
  | cleared (older : Option Entry) (entry : Entry) :
      limit < (FileTree.entrySize entry : Int) →
      Failed limit ⟨older, some entry⟩ ⟨none, some entry⟩
  | shifted (older : Option Entry) (entry : Entry) :
      limit < (FileTree.entrySize entry : Int) →
      Failed limit ⟨older, some entry⟩ ⟨some entry, none⟩
  | reopened (older : Option Entry) (entry : Entry) :
      limit < (FileTree.entrySize entry : Int) →
      Failed limit ⟨older, some entry⟩ ⟨some entry, some (.file "")⟩

/-- What a write does to two logs, by its result. It writes a line only if there is one. -/
inductive Step {Error : Type} (limit : Int) (line : Except Unencodable String) :
    Except Error Unit → LogPair → LogPair → Prop
  | succeeded {before after : LogPair} (text : String) :
      line = .ok text → Written limit text before after → Step limit line (.ok ()) before after
  | failed {before after : LogPair} (error : Error) :
      Failed limit before after → Step limit line (.error error) before after

end LogPair

namespace TelemetryClient

/-- A directory is apart from the logs if no part of its path is named like one of them. -/
def IsApart (directory : PathName) : Prop :=
  ∀ name ∈ directory.names, name ≠ logName ∧ name ≠ olderLogName

/-- What stands at the places of the two logs of a directory. -/
def logPair (directory : PathName) (files : FileTree) : LogPair where
  older := files.get? (files.placeIn directory olderLogName)
  current := files.get? (files.placeIn directory logName)

theorem isProperName_logName : FileTree.IsProperName logName := by
  simp [FileTree.IsProperName, logName]

theorem isProperName_olderLogName : FileTree.IsProperName olderLogName := by
  simp [FileTree.IsProperName, olderLogName]

theorem logName_ne_olderLogName : logName ≠ olderLogName := by
  simp [logName, olderLogName]

/-- A tree that requests of a client lead to: it is link-free again, works in the same directory,
and differs, apart from the logs, by directories on the way to the directory of the logs only. -/
structure Leads (directory : PathName) (files after : FileTree) : Prop where
  linkFree : after.LinkFree
  workingDirectory : after.workingDirectory = files.workingDirectory
  others : ∀ location, location ≠ files.placeIn directory logName →
    location ≠ files.placeIn directory olderLogName →
    after.get? location = files.get? location ∨
      (files.get? location = none ∧ after.get? location = some .directory ∧
        FileTree.IsOnWay (files.start directory.anchor).location directory.names location)

section Places

variable {directory : PathName} {files after : FileTree}

theorem placeIn_eq (same : after.workingDirectory = files.workingDirectory) (name : String) :
    after.placeIn directory name = files.placeIn directory name := by
  simp only [FileTree.placeIn, FileTree.locationOf, FileTree.start_eq same]

theorem placeIn_ne_nil (name : String) : files.placeIn directory name ≠ [] := by
  simp [FileTree.placeIn]

theorem placeIn_ne {name other : String} (different : name ≠ other) :
    files.placeIn directory name ≠ files.placeIn directory other := by
  simp [FileTree.placeIn, different]

theorem Leads.refl (linkFree : files.LinkFree) : Leads directory files files :=
  ⟨linkFree, rfl, fun _ _ _ => Or.inl rfl⟩

/-- What leads from one tree to a second and on to a third leads to the third. -/
theorem Leads.trans {later : FileTree} (first : Leads directory files after)
    (second : Leads directory after later) : Leads directory files later := by
  refine ⟨second.linkFree, second.workingDirectory.trans first.workingDirectory, ?_⟩
  intro location notLog notOlder
  rw [← placeIn_eq first.workingDirectory] at notLog notOlder
  have laterOn := second.others location notLog notOlder
  rw [placeIn_eq first.workingDirectory] at notLog notOlder
  rcases laterOn with same | ⟨unused, placed, way⟩
  · rw [same]
    exact first.others location notLog notOlder
  · rw [FileTree.start_eq first.workingDirectory] at way
    rcases first.others location notLog notOlder with kept | ⟨-, already, -⟩
    · rw [kept] at unused
      exact Or.inr ⟨unused, placed, way⟩
    · rw [already] at unused
      cases unused

/-- Putting an entry that is no link at the place of one of the two logs is an allowed change. -/
theorem Leads.put (linkFree : files.LinkFree) {name : String}
    (named : name = logName ∨ name = olderLogName) {entry : Entry}
    (noLink : ∀ target, entry ≠ .link target) :
    Leads directory files (files.put (files.placeIn directory name) entry) := by
  refine ⟨linkFree.put noLink, rfl, ?_⟩
  intro location notLog notOlder
  rw [FileTree.get?_put, if_neg]
  · exact Or.inl rfl
  · rintro ⟨-, here⟩
    rcases named with rfl | rfl
    · exact notLog here
    · exact notOlder here

/-- Removing one of the two logs is an allowed change. -/
theorem Leads.remove (linkFree : files.LinkFree) {name : String}
    (named : name = logName ∨ name = olderLogName) :
    Leads directory files (files.remove (files.placeIn directory name)) := by
  refine ⟨linkFree.remove _, rfl, ?_⟩
  intro location notLog notOlder
  rw [FileTree.get?_remove, if_neg]
  · exact Or.inl rfl
  · rintro ⟨-, here⟩
    rcases named with rfl | rfl
    · exact notLog here
    · exact notOlder here

theorem logPair_eq (same : after.workingDirectory = files.workingDirectory)
    {older current : Option Entry}
    (olderThere : after.get? (files.placeIn directory olderLogName) = older)
    (currentThere : after.get? (files.placeIn directory logName) = current) :
    logPair directory after = ⟨older, current⟩ := by
  simp only [logPair, placeIn_eq same, olderThere, currentThere]

theorem logPair_of_current {entry : Entry}
    (stands : (logPair directory files).current = some entry) :
    logPair directory files = ⟨(logPair directory files).older, some entry⟩ := by
  rw [← stands]

theorem logPair_put_logName (entry : Entry) :
    logPair directory (files.put (files.placeIn directory logName) entry) =
      ⟨(logPair directory files).older, some entry⟩ := by
  have apart : files.placeIn directory olderLogName ≠ files.placeIn directory logName :=
    placeIn_ne logName_ne_olderLogName.symm
  apply logPair_eq rfl
  · rw [FileTree.get?_put, if_neg fun both => apart both.2]
    rfl
  · rw [FileTree.get?_put, if_pos ⟨placeIn_ne_nil _, rfl⟩]

theorem logPair_put_olderLogName (entry : Entry) :
    logPair directory (files.put (files.placeIn directory olderLogName) entry) =
      ⟨some entry, (logPair directory files).current⟩ := by
  have apart : files.placeIn directory logName ≠ files.placeIn directory olderLogName :=
    placeIn_ne logName_ne_olderLogName
  apply logPair_eq rfl
  · rw [FileTree.get?_put, if_pos ⟨placeIn_ne_nil _, rfl⟩]
  · rw [FileTree.get?_put, if_neg fun both => apart both.2]
    rfl

theorem logPair_remove_logName :
    logPair directory (files.remove (files.placeIn directory logName)) =
      ⟨(logPair directory files).older, none⟩ := by
  have apart : files.placeIn directory olderLogName ≠ files.placeIn directory logName :=
    placeIn_ne logName_ne_olderLogName.symm
  apply logPair_eq rfl
  · rw [FileTree.get?_remove, if_neg fun both => apart both.2]
    rfl
  · rw [FileTree.get?_remove, if_pos ⟨placeIn_ne_nil _, rfl⟩]

theorem logPair_remove_olderLogName :
    logPair directory (files.remove (files.placeIn directory olderLogName)) =
      ⟨none, (logPair directory files).current⟩ := by
  have apart : files.placeIn directory logName ≠ files.placeIn directory olderLogName :=
    placeIn_ne logName_ne_olderLogName
  apply logPair_eq rfl
  · rw [FileTree.get?_remove, if_pos ⟨placeIn_ne_nil _, rfl⟩]
  · rw [FileTree.get?_remove, if_neg fun both => apart both.2]
    rfl

end Places

section Steps

variable {client : TelemetryClient} {directory : PathName} {files after : FileTree}

/-- Neither log stands on the way to its own directory. -/
theorem placeIn_ne_of_isOnWay (apart : IsApart directory) {location : Location}
    (way : FileTree.IsOnWay (files.start directory.anchor).location directory.names location) :
    location ≠ files.placeIn directory logName ∧
      location ≠ files.placeIn directory olderLogName := by
  rcases way with ⟨above, name, beginning, -, rfl⟩
  have occurs : name ∈ directory.names := by
    apply beginning.subset
    simp
  rcases apart name occurs with ⟨notLog, notOlder⟩
  refine ⟨?_, ?_⟩
  · intro same
    exact notLog (List.cons.inj (List.append_inj' same rfl).2).1
  · intro same
    exact notOlder (List.cons.inj (List.append_inj' same rfl).2).1

/-- Ensuring the directory makes directories on its way and leaves both logs alone. -/
theorem ensureDirectory_leads (linkFree : files.LinkFree) (apart : IsApart directory) :
    Leads directory files (files.ensureDirectory directory).2 ∧
      logPair directory (files.ensureDirectory directory).2 = logPair directory files := by
  have made := FileTree.ensureDirectory_made linkFree directory
  refine ⟨⟨made.linkFree linkFree, made.workingDirectory, ?_⟩, ?_⟩
  · intro location _ _
    exact made.entries location
  · have unchanged : ∀ name, name = logName ∨ name = olderLogName →
        (files.ensureDirectory directory).2.get? (files.placeIn directory name) =
          files.get? (files.placeIn directory name) := by
      intro name named
      rcases made.entries (files.placeIn directory name) with same | ⟨-, -, way⟩
      · exact same
      · rcases placeIn_ne_of_isOnWay apart way with ⟨notLog, notOlder⟩
        rcases named with rfl | rfl
        · exact absurd rfl notLog
        · exact absurd rfl notOlder
    exact logPair_eq made.workingDirectory (unchanged _ (Or.inr rfl)) (unchanged _ (Or.inl rfl))

/-- Clearing the older log is an allowed change: the pair is as before or has no older log. -/
theorem clear_spec (linkFree : files.LinkFree) {present : Bool}
    (clears : (if present then files.unlink (directory.child olderLogName) else .ok files) =
      .ok after) :
    Leads directory files after ∧
      (logPair directory after = logPair directory files ∨
        logPair directory after = ⟨none, (logPair directory files).current⟩) := by
  cases present with
  | false =>
      cases clears
      exact ⟨Leads.refl linkFree, Or.inl rfl⟩
  | true =>
      rw [FileTree.unlink_child linkFree isProperName_olderLogName clears]
      exact ⟨Leads.remove linkFree (Or.inr rfl), Or.inr logPair_remove_olderLogName⟩

/-- A log that is renamed is the older one, and no current log is left. -/
theorem rename_spec (linkFree : files.LinkFree) {entry : Entry}
    (stands : (logPair directory files).current = some entry) (noDirectory : entry ≠ .directory)
    (moves : files.rename (directory.child logName) (directory.child olderLogName) = .ok after) :
    Leads directory files after ∧ logPair directory after = ⟨some entry, none⟩ := by
  have noLink : ∀ target, entry ≠ .link target := by
    intro target same
    exact linkFree _ target (stands.trans (congrArg some same))
  have removed : Leads directory files (files.remove (files.placeIn directory logName)) :=
    Leads.remove linkFree (Or.inl rfl)
  have place : (files.remove (files.placeIn directory logName)).placeIn directory olderLogName =
      files.placeIn directory olderLogName := placeIn_eq rfl _
  rw [FileTree.rename_child linkFree isProperName_logName isProperName_olderLogName stands
    noDirectory moves, ← place]
  refine ⟨removed.trans (Leads.put removed.linkFree (Or.inr rfl) noLink), ?_⟩
  rw [logPair_put_olderLogName, logPair_remove_logName]

/-- A shift that returns leaves the log as the older one; one that fails has lost at most the
older one. -/
theorem shiftLogs_spec (linkFree : files.LinkFree) {entry : Entry}
    (stands : (logPair directory files).current = some entry) (noDirectory : entry ≠ .directory)
    {result : Except FileError Unit}
    (shifts : shiftLogs (directory.child logName) (directory.child olderLogName) files =
      (result, after)) :
    Leads directory files after ∧
      ((result = .ok () ∧ logPair directory after = ⟨some entry, none⟩) ∨
        ((∃ error, result = .error error) ∧
          (logPair directory after = logPair directory files ∨
            logPair directory after = ⟨none, some entry⟩))) := by
  simp only [shiftLogs] at shifts
  split at shifts
  · cases shifts
    exact ⟨Leads.refl linkFree, Or.inr ⟨⟨_, rfl⟩, Or.inl rfl⟩⟩
  · split at shifts
    · cases shifts
      exact ⟨Leads.refl linkFree, Or.inr ⟨⟨_, rfl⟩, Or.inl rfl⟩⟩
    · rename_i cleared clears
      rcases clear_spec linkFree clears with ⟨leads, pair⟩
      rw [stands] at pair
      have remains : (logPair directory cleared).current = some entry := by
        rcases pair with same | gone
        · rw [same, stands]
        · rw [gone]
      split at shifts
      · cases shifts
        exact ⟨leads, Or.inr ⟨⟨_, rfl⟩, pair⟩⟩
      · rename_i renamed moves
        cases shifts
        rcases rename_spec leads.linkFree remains noDirectory moves with ⟨moved, shifted⟩
        exact ⟨leads.trans moved, Or.inl ⟨rfl, shifted⟩⟩

/-- A log found oversized stands there and is larger than its limit. -/
theorem exists_of_isOversized (linkFree : files.LinkFree)
    (oversized : client.isOversized (directory.child logName) files = true) :
    ∃ entry, (logPair directory files).current = some entry ∧
      client.maxLogSize < FileTree.entrySize entry := by
  simp only [isOversized] at oversized
  split at oversized
  · rename_i entry found
    exact ⟨entry, FileTree.entryAt?_child linkFree isProperName_logName found,
      of_decide_eq_true oversized⟩
  · cases oversized

/-- A rotation changes nothing, shifts an oversized log, or fails on the way. -/
theorem rotate_spec (linkFree : files.LinkFree)
    (noDirectory : (logPair directory files).current ≠ some .directory)
    {result : Except FileError Unit} (rotates : client.rotate directory files = (result, after)) :
    Leads directory files after ∧
      ((result = .ok () ∧ after = files ∧
          client.isOversized (directory.child logName) files = false) ∨
        (result = .ok () ∧ ∃ entry, (logPair directory files).current = some entry ∧
          client.maxLogSize < FileTree.entrySize entry ∧
          logPair directory after = ⟨some entry, none⟩) ∨
        ((∃ error, result = .error error) ∧
          LogPair.Failed client.maxLogSize (logPair directory files)
            (logPair directory after))) := by
  simp only [rotate] at rotates
  split at rotates
  · cases rotates
    exact ⟨Leads.refl linkFree, Or.inr (Or.inr ⟨⟨_, rfl⟩, LogPair.Failed.untouched _⟩)⟩
  · by_cases oversized : client.isOversized (directory.child logName) files = true
    · rw [if_pos oversized] at rotates
      rcases exists_of_isOversized linkFree oversized with ⟨entry, stands, large⟩
      have noDirectoryThere : entry ≠ .directory := by
        rintro rfl
        exact noDirectory stands
      rcases shiftLogs_spec linkFree stands noDirectoryThere rotates with
        ⟨leads, ⟨success, shifted⟩ | ⟨failure, kept⟩⟩
      · exact ⟨leads, Or.inr (Or.inl ⟨success, entry, stands, large, shifted⟩)⟩
      · refine ⟨leads, Or.inr (Or.inr ⟨failure, ?_⟩)⟩
        rcases kept with same | gone
        · rw [same]
          exact LogPair.Failed.untouched _
        · rw [gone, logPair_of_current stands]
          exact LogPair.Failed.cleared _ entry large
    · rw [if_neg oversized] at rotates
      cases rotates
      exact ⟨Leads.refl linkFree, Or.inl ⟨rfl, rfl, Bool.eq_false_iff.mpr oversized⟩⟩

/-- Opening the log for appending makes an empty one where there was none, and changes nothing
else. -/
theorem open_spec (linkFree : files.LinkFree) {location : Location}
    (opens : files.openForAppend (directory.child logName) = .ok (location, after)) :
    location = after.placeIn directory logName ∧ Leads directory files after ∧
      logPair directory after =
        ⟨(logPair directory files).older,
          some ((logPair directory files).current.getD (.file ""))⟩ := by
  rcases FileTree.openForAppend_child linkFree isProperName_logName opens with
    ⟨rfl, ⟨rfl, stands⟩ | ⟨rfl, unused⟩⟩
  · rcases Option.isSome_iff_exists.mp stands with ⟨entry, there⟩
    have current : (logPair directory after).current = some entry := there
    refine ⟨rfl, Leads.refl linkFree, ?_⟩
    rw [current, Option.getD_some, ← current]
  · have current : (logPair directory files).current = none := unused
    refine ⟨(placeIn_eq rfl _).symm, Leads.put linkFree (Or.inl rfl) ?_, ?_⟩
    · intro target impossible
      cases impossible
    · rw [logPair_put_logName, current]
      rfl

/-- Appending to the log extends the current entry and nothing else. -/
theorem appendAt_spec (linkFree : files.LinkFree) {entry : Entry}
    (stands : (logPair directory files).current = some entry) (text : String) :
    Leads directory files (files.appendAt (files.placeIn directory logName) text) ∧
      logPair directory (files.appendAt (files.placeIn directory logName) text) =
        ⟨(logPair directory files).older, some (entry.extended text)⟩ := by
  have there : files.get? (files.placeIn directory logName) = some entry := stands
  cases entry with
  | file content =>
      simp only [FileTree.appendAt, there]
      refine ⟨Leads.put linkFree (Or.inl rfl) ?_, logPair_put_logName _⟩
      intro target impossible
      cases impossible
  | _ =>
      simp only [FileTree.appendAt, there]
      exact ⟨Leads.refl linkFree, logPair_eq rfl rfl there⟩

/-- A line is written at the end of what stands at the place of the log, or of an empty file that is
placed there. Without a line, that file is all that may be left. -/
theorem append_spec (linkFree : files.LinkFree) {line : Except Unencodable String}
    {result : Except LogError Unit} (appends : append directory line files = (result, after)) :
    Leads directory files after ∧
      ((result = .ok () ∧ ∃ text, line = .ok text ∧
          files.entryAt? (directory.child logName) = (logPair directory files).current ∧
          logPair directory after =
            ⟨(logPair directory files).older,
              some (((logPair directory files).current.getD (.file "")).extended text)⟩) ∨
        ((∃ error, result = .error error) ∧
          (logPair directory after = logPair directory files ∨
            logPair directory after =
              ⟨(logPair directory files).older,
                some ((logPair directory files).current.getD (.file ""))⟩))) := by
  simp only [append] at appends
  split at appends
  · cases appends
    exact ⟨Leads.refl linkFree, Or.inr ⟨⟨_, rfl⟩, Or.inl rfl⟩⟩
  · rename_i location opened opens
    have seen := FileTree.entryAt?_of_opened linkFree isProperName_logName opens
    rcases open_spec linkFree opens with ⟨rfl, leads, pair⟩
    split at appends
    · cases appends
      exact ⟨leads, Or.inr ⟨⟨_, rfl⟩, Or.inr pair⟩⟩
    · rename_i text
      cases appends
      have stands := congrArg LogPair.current pair
      rcases appendAt_spec leads.linkFree stands text with ⟨more, written⟩
      rw [pair] at written
      exact ⟨leads.trans more, Or.inl ⟨rfl, text, rfl, seen, written⟩⟩

/-- Before a line is appended the logs are as they were, shifted, or left by a step that failed.
-/
theorem prepare_spec (linkFree : files.LinkFree) (apart : IsApart directory)
    (noDirectory : (logPair directory files).current ≠ some .directory)
    {result : Except FileError Unit} (prepares : client.prepare directory files = (result, after)) :
    Leads directory files after ∧
      ((result = .ok () ∧ logPair directory after = logPair directory files ∧
          client.isOversized (directory.child logName) after = false) ∨
        (result = .ok () ∧ ∃ entry, (logPair directory files).current = some entry ∧
          client.maxLogSize < FileTree.entrySize entry ∧
          logPair directory after = ⟨some entry, none⟩) ∨
        ((∃ error, result = .error error) ∧
          LogPair.Failed client.maxLogSize (logPair directory files)
            (logPair directory after))) := by
  rcases ensureDirectory_leads linkFree apart with ⟨made, same⟩
  simp only [prepare] at prepares
  split at prepares
  · rename_i error partly ended
    cases prepares
    rw [ended] at made same
    refine ⟨made, Or.inr (Or.inr ⟨⟨error, rfl⟩, ?_⟩)⟩
    rw [same]
    exact LogPair.Failed.untouched _
  · rename_i ready ended
    rw [ended] at made same
    rw [← same] at noDirectory
    rcases rotate_spec made.linkFree noDirectory prepares with
      ⟨leads, ⟨success, rfl, fits⟩ | shifted | failed⟩
    · exact ⟨made, Or.inl ⟨success, same, fits⟩⟩
    · rw [same] at shifted
      exact ⟨made.trans leads, Or.inr (Or.inl shifted)⟩
    · rw [same] at failed
      exact ⟨made.trans leads, Or.inr (Or.inr failed)⟩

theorem fits_of_not_isOversized {log : PathName} {entry : Entry}
    (fits : client.isOversized log files = false) (seen : files.entryAt? log = some entry) :
    (FileTree.entrySize entry : Int) ≤ client.maxLogSize := by
  simp only [isOversized, seen, decide_eq_false_iff_not] at fits
  exact Int.not_lt.mp fits

theorem extended_empty (text : String) : (Entry.file "").extended text = .file text := by
  simp only [Entry.extended, String.empty_append]

/-- Appending to a log in its limit is one of the allowed steps of the pair. -/
theorem append_of_fitting (linkFree : files.LinkFree)
    (fits : client.isOversized (directory.child logName) files = false)
    {line : Except Unencodable String} {result : Except LogError Unit}
    (appends : append directory line files = (result, after)) :
    LogPair.Step client.maxLogSize line result (logPair directory files)
      (logPair directory after) := by
  cases logs : logPair directory files with
  | mk older current =>
      rcases (append_spec linkFree appends).2 with
        ⟨rfl, text, lined, seen, pair⟩ | ⟨⟨error, rfl⟩, kept⟩
      · refine LogPair.Step.succeeded text lined ?_
        rw [logs] at seen pair
        rw [pair]
        cases current with
        | none =>
            simp only [Option.getD_none, extended_empty]
            exact LogPair.Written.created older
        | some entry =>
            exact LogPair.Written.extended older entry (fits_of_not_isOversized fits seen)
      · refine LogPair.Step.failed error ?_
        rw [logs] at kept
        rcases kept with unchanged | opened
        · rw [unchanged]
          exact LogPair.Failed.untouched _
        · rw [opened]
          cases current with
          | none => exact LogPair.Failed.opened older
          | some entry => exact LogPair.Failed.untouched _

/-- Appending after a shift is an allowed step of the pair as it was before the shift. -/
theorem append_of_shifted (linkFree : files.LinkFree) (older : Option Entry) {entry : Entry}
    (large : client.maxLogSize < FileTree.entrySize entry)
    (shifted : logPair directory files = ⟨some entry, none⟩)
    {line : Except Unencodable String} {result : Except LogError Unit}
    (appends : append directory line files = (result, after)) :
    LogPair.Step client.maxLogSize line result ⟨older, some entry⟩ (logPair directory after) := by
  rcases (append_spec linkFree appends).2 with
    ⟨rfl, text, lined, -, pair⟩ | ⟨⟨error, rfl⟩, kept⟩
  · refine LogPair.Step.succeeded text lined ?_
    rw [pair, shifted]
    simp only [Option.getD_none, extended_empty]
    exact LogPair.Written.restarted older entry large
  · refine LogPair.Step.failed error ?_
    rw [shifted] at kept
    rcases kept with unchanged | opened
    · rw [unchanged]
      exact LogPair.Failed.shifted older entry large
    · rw [opened]
      exact LogPair.Failed.reopened older entry large

/-- A write into the logs of a link-free tree does to them one of the things that `LogPair.Step`
lists, and to the rest of the tree no more than to make directories on the way. -/
theorem write_spec (linkFree : files.LinkFree) (apart : IsApart directory)
    (noDirectory : (logPair directory files).current ≠ some .directory)
    {line : Except Unencodable String} {result : Except LogError Unit}
    (writes : client.write directory line files = (result, after)) :
    Leads directory files after ∧
      LogPair.Step client.maxLogSize line result (logPair directory files)
        (logPair directory after) := by
  simp only [write] at writes
  split at writes
  · rename_i error partly prepares
    cases writes
    rcases prepare_spec linkFree apart noDirectory prepares with
      ⟨leads, ⟨impossible, -⟩ | ⟨impossible, -⟩ | ⟨-, failed⟩⟩
    · cases impossible
    · cases impossible
    · exact ⟨leads, LogPair.Step.failed _ failed⟩
  · rename_i ready prepares
    rcases prepare_spec linkFree apart noDirectory prepares with
      ⟨leads, ⟨-, same, fits⟩ | ⟨-, entry, stands, large, shifted⟩ | ⟨⟨error, impossible⟩, -⟩⟩
    · refine ⟨leads.trans (append_spec leads.linkFree writes).1, ?_⟩
      rw [← same]
      exact append_of_fitting leads.linkFree fits writes
    · refine ⟨leads.trans (append_spec leads.linkFree writes).1, ?_⟩
      rw [logPair_of_current stands]
      exact append_of_shifted leads.linkFree _ large shifted writes
    · cases impossible

end Steps

end TelemetryClient

end BuildSteps
