import BuildSteps.Proofs.Telemetry.Calls

/-!
# Retention of the most recent records

The older log and the log, one after the other, are read as one text. That text is the end of
everything that was in them at first or was written since, and it begins where one of the two
contents at first or one of the lines begins. So nothing in the middle is missing and nothing comes
twice.

A cut between the two logs falls between two blocks as well, which is what lets a log become the
older log, and lets the older log go, without a line being cut.
-/

namespace BuildSteps

/-- Nothing stands at a place, or a file. -/
def IsRegular (there : Option Entry) : Prop :=
  ∀ entry, there = some entry → ∃ content, entry = .file content

/-- The text at a place, which is empty unless a file stands there. -/
def textAt : Option Entry → String
  | some (.file content) => content
  | _ => ""

/-- Two logs retain the last of some blocks, the older log those before and the log those after a
cut between two blocks. -/
structure LogPair.Retains (blocks : List String) (pair : LogPair) : Prop where
  older : IsRegular pair.older
  current : IsRegular pair.current
  texts : ∃ lost early late, blocks = lost ++ (early ++ late) ∧
    textAt pair.older = String.join early ∧ textAt pair.current = String.join late

theorem isRegular_none : IsRegular none := by
  intro entry impossible
  cases impossible

theorem isRegular_file (content : String) : IsRegular (some (.file content)) := by
  intro entry same
  cases same
  exact ⟨content, rfl⟩

theorem join_concat (early : List String) (line : String) :
    String.join (early ++ [line]) = String.join early ++ line := by
  simp only [String.join_append, String.join_cons, String.join_nil, String.append_empty]

namespace LogPair

variable {limit : Int} {blocks : List String} {before after : LogPair}

/-- A written line is the last block retained, also when a rotation drops older ones. -/
theorem Retains.written (retains : Retains blocks before) {text : String}
    (step : Written limit text before after) : Retains (blocks ++ [text]) after := by
  rcases retains with
    ⟨olderRegular, currentRegular, lost, early, late, whole, olderText, currentText⟩
  cases step with
  | created older =>
      refine ⟨olderRegular, isRegular_file text, lost, early, late ++ [text], ?_, olderText, ?_⟩
      · simp only [whole, List.append_assoc]
      · rw [join_concat, ← currentText]
        simp only [textAt, String.empty_append]
  | extended older entry fits =>
      rcases currentRegular entry rfl with ⟨content, rfl⟩
      refine ⟨olderRegular, isRegular_file _, lost, early, late ++ [text], ?_, olderText, ?_⟩
      · simp only [whole, List.append_assoc]
      · rw [join_concat, ← currentText]
        rfl
  | restarted older entry large =>
      refine ⟨currentRegular, isRegular_file text, lost ++ early, late, [text], ?_, currentText, ?_⟩
      · simp only [whole, List.append_assoc]
      · simp only [textAt, String.join_cons, String.join_nil, String.append_empty]

/-- A failed write keeps the retained blocks a suffix of all blocks. -/
theorem Retains.failed (retains : Retains blocks before) (step : Failed limit before after) :
    Retains blocks after := by
  rcases retains with
    ⟨olderRegular, currentRegular, lost, early, late, whole, olderText, currentText⟩
  cases step with
  | untouched pair =>
      exact ⟨olderRegular, currentRegular, lost, early, late, whole, olderText, currentText⟩
  | opened older =>
      exact ⟨olderRegular, isRegular_file "", lost, early, late, whole, olderText, currentText⟩
  | cleared older entry large =>
      refine ⟨isRegular_none, currentRegular, lost ++ early, [], late, ?_, ?_, currentText⟩
      · simp only [whole, List.nil_append, List.append_assoc]
      · simp only [textAt, String.join_nil]
  | shifted older entry large =>
      refine ⟨currentRegular, isRegular_none, lost ++ early, late, [], ?_, currentText, ?_⟩
      · simp only [whole, List.append_nil, List.append_assoc]
      · simp only [textAt, String.join_nil]
  | reopened older entry large =>
      refine ⟨currentRegular, isRegular_file "", lost ++ early, late, [], ?_, currentText, ?_⟩
      · simp only [whole, List.append_nil, List.append_assoc]
      · simp only [textAt, String.join_nil]

/-- Retention is kept by every step of the pair of logs. -/
theorem retains_isInvariant (limit : Int) : IsInvariant limit Retains where
  noDirectory := by
    intro blocks pair retains directory
    rcases retains.current _ directory with ⟨content, impossible⟩
    cases impossible
  written := by
    intro blocks text before after retains step
    exact retains.written step
  failed := by
    intro blocks before after retains step
    exact retains.failed step

end LogPair

namespace TelemetryClient

/-- After any calls, in whichever way some of them may have failed, the two logs are still files
where they exist, and together they hold the end of what they held at first and of the lines of
those calls that returned, without a block being cut. -/
theorem filesAfter_retains (client : TelemetryClient) {directory : PathName} {files : FileTree}
    (located : client.directoryPath? = some directory) (linkFree : files.LinkFree)
    (apart : IsApart directory)
    (olderRegular : IsRegular (files.get? (files.placeIn directory olderLogName)))
    (currentRegular : IsRegular (files.get? (files.placeIn directory logName)))
    (calls : List Call) :
    IsRegular ((client.filesAfter calls files).get? (files.placeIn directory olderLogName)) ∧
      IsRegular ((client.filesAfter calls files).get? (files.placeIn directory logName)) ∧
      ∃ lines, client.returnedLines calls files = lines.map Except.ok ∧
        ∃ lost kept,
          textAt (files.get? (files.placeIn directory olderLogName)) ::
              textAt (files.get? (files.placeIn directory logName)) :: lines = lost ++ kept ∧
            textAt ((client.filesAfter calls files).get? (files.placeIn directory olderLogName)) ++
                textAt ((client.filesAfter calls files).get? (files.placeIn directory logName)) =
              String.join kept := by
  have initially : LogPair.Retains
      [textAt (files.get? (files.placeIn directory olderLogName)),
        textAt (files.get? (files.placeIn directory logName))] (logPair directory files) := by
    refine ⟨olderRegular, currentRegular, [], [_], [_], rfl, ?_, ?_⟩
    · simp only [logPair, String.join_cons, String.join_nil, String.append_empty]
    · simp only [logPair, String.join_cons, String.join_nil, String.append_empty]
  rcases filesAfter_invariant (LogPair.retains_isInvariant client.maxLogSize) located apart linkFree
    calls _ initially with ⟨leads, lines, returned, retained⟩
  have same := leads.workingDirectory
  rcases retained with ⟨olderAfter, currentAfter, lost, early, late, whole, olderText, currentText⟩
  simp only [logPair, placeIn_eq same] at olderAfter currentAfter olderText currentText
  refine ⟨olderAfter, currentAfter, lines, returned, lost, early ++ late, whole, ?_⟩
  rw [olderText, currentText, String.join_append]

/-- Under a limit of nothing each of these calls moves the log away, and one of them then fails. -/
theorem filesAfter_retains_restarted :
    let client : TelemetryClient := { directory := some "logs", maxMegabytes := 0 }
    let directory : PathName := ⟨.workingDirectory, ["logs"]⟩
    let older := FileTree.empty.placeIn directory olderLogName
    let current := FileTree.empty.placeIn directory logName
    let files :=
      (FileTree.empty.put ["work", "logs"] .directory).put current (.file "first\n")
    let calls : List Call :=
      [⟨0, .text "step", []⟩, ⟨1, .text "step", [("value", .bytes "b")]⟩, ⟨2, .text "step", []⟩]
    (client.returnedLines calls files).length = 2 ∧
      IsRegular ((client.filesAfter calls files).get? older) ∧
      IsRegular ((client.filesAfter calls files).get? current) ∧
      ∃ lines, client.returnedLines calls files = lines.map Except.ok ∧
        ∃ lost kept, "" :: "first\n" :: lines = lost ++ kept ∧
          textAt ((client.filesAfter calls files).get? older) ++
            textAt ((client.filesAfter calls files).get? current) = String.join kept := by
  intro client directory older current files calls
  have located : client.directoryPath? = some directory := by decide
  have apart : IsApart directory := by
    simp [IsApart, directory, logName, olderLogName]
  have linkFree : files.LinkFree := by
    refine (FileTree.linkFree_empty.put ?_).put ?_
    · intro target impossible
      cases impossible
    · intro target impossible
      cases impossible
  have olderThere : files.get? older = none := by decide
  have currentThere : files.get? current = some (.file "first\n") := by decide
  have olderRegular : IsRegular (files.get? (files.placeIn directory olderLogName)) := by
    have there : files.get? (files.placeIn directory olderLogName) = none := olderThere
    rw [there]
    exact isRegular_none
  have currentRegular : IsRegular (files.get? (files.placeIn directory logName)) := by
    have there : files.get? (files.placeIn directory logName) = some (.file "first\n") :=
      currentThere
    rw [there]
    exact isRegular_file _
  have two : (client.returnedLines calls files).length = 2 := by decide +kernel
  exact ⟨two, filesAfter_retains client located linkFree apart olderRegular currentRegular calls⟩

end TelemetryClient

end BuildSteps
