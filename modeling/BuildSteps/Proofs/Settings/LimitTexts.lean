import BuildSteps.CommandLine.Run
import BuildSteps.Proofs.Settings.Supplied
import BuildSteps.Proofs.Telemetry.Effect
import BuildSteps.Proofs.Text.IntegerReading

/-!
# The limit of the log in texts

The limit is a positive number of megabytes. A text that is supplied for it is accepted if such a
number is written in it, and the number in the loaded settings is the written one, which fixes the
size beyond which the log is rotated. `load_limit_written` says so for every text that is not too
long, and which report there is otherwise.
-/

namespace BuildSteps

/-- A client rotates beyond a size if a log that is in reach is shifted when it is larger, and all
files stay as they are when it is not. -/
def TelemetryClient.RotatesBeyond (client : TelemetryClient) (size : Int) : Prop :=
  ∀ (directory : PathName) (files : FileTree) (present : Bool),
    let log := directory.child logName
    files.hasEntry log = .ok present →
      (∀ entry, files.entryAt? log = some entry → size < FileTree.entrySize entry →
        client.rotate directory files = shiftLogs log (directory.child olderLogName) files) ∧
      ((∀ entry, files.entryAt? log = some entry → FileTree.entrySize entry ≤ size) →
        client.rotate directory files = (.ok (), files))

/-- A client rotates beyond as many bytes as its limit in megabytes has. -/
theorem TelemetryClient.rotatesBeyond (client : TelemetryClient) :
    client.RotatesBeyond (client.maxMegabytes * 1048576) := by
  intro directory files present log inReach
  simp only [rotate, log, inReach, isOversized, client.maxLogSize_eq] at *
  constructor
  · intro entry stands large
    simp [stands, large]
  · intro small
    cases stands : files.entryAt? (directory.child logName) with
    | none => simp
    | some entry => simp [Int.not_lt.mpr (small entry stands)]

namespace Settings

open Text

variable {environment : Environment} {keywords : List (String × Value)} {text : String}

theorem readLimit_text (text : String) :
    readLimit (.text text) = match readInteger text.toList with
      | .ok number => if 0 < number then .ok number else .error .notPositive
      | .error .unreadable => .error .unreadableInteger
      | .error .tooLong => .error .integerTooLong := by
  simp only [readLimit, readWhole, readNumber]
  rcases readInteger text.toList with (_ | _) | number <;> rfl

/-- A text is read as a limit iff it is a signed and padded form of a positive integer. -/
theorem readLimit_text_eq_ok_iff (short : text.length ≤ digitLimit) {limit : Int} :
    readLimit (.text text) = .ok limit ↔
      1 ≤ limit ∧ IsWrittenIn (IsSigned IsPadded) text.toList limit := by
  have read := @readInteger_eq_ok_iff text.toList limit short
  rw [readLimit_text]
  constructor
  · intro accepted
    split at accepted
    · rename_i number found
      split at accepted
      · rename_i positive
        cases accepted
        rcases read.mp found with signed | ⟨word, -, late⟩
        · exact ⟨positive, signed⟩
        · have nonpos := late.nonpos
          omega
      · cases accepted
    · cases accepted
    · cases accepted
  · rintro ⟨positive, signed⟩
    rw [read.mpr (Or.inl signed)]
    simp
    omega

/-- A form of an integer that is not positive is refused as that. -/
theorem readLimit_text_of_nonpos (short : text.length ≤ digitLimit) {number : Int}
    (nonpos : number ≤ 0) (written : IsWrittenIn (IsSigned IsPadded) text.toList number ∨
      IsWrittenIn IsSignedLate text.toList number) :
    readLimit (.text text) = .error .notPositive := by
  have read := (@readInteger_eq_ok_iff text.toList number short).mpr written
  rw [readLimit_text, read]
  simp
  omega

theorem readLimit_text_of_unwritten (short : text.length ≤ digitLimit)
    (unwritten : ∀ number, ¬ IsWrittenIn (IsSigned IsPadded) text.toList number ∧
      ¬ IsWrittenIn IsSignedLate text.toList number) :
    readLimit (.text text) = .error .unreadableInteger := by
  rw [readLimit_text, readInteger_of_unwritten short unwritten]

/-- A text of at most 4300 characters that is supplied as the limit is accepted if and only if a
positive number is written in it behind an optional sign. Loaded settings have that number and no
other, and their client rotates beyond so many megabytes. A number that is not positive is reported
as such, also if its minus sign is late, and any other text as one that stands for no integer. -/
theorem load_limit_written
    (supplied : Setting.telemetryMaxMegabytes.Supplied text environment keywords)
    (short : text.length ≤ 4300) :
    let loaded := load environment keywords
    let signed := IsWrittenIn (IsSigned IsPadded) text.toList
    let late := IsWrittenIn IsSignedLate text.toList
    ((∃ settings, loaded = .ok settings) ↔ ∀ setting, reportsOn setting loaded = []) ∧
      (reportsOn .telemetryMaxMegabytes loaded = [] ↔ ∃ limit, 1 ≤ limit ∧ signed limit) ∧
      (∀ settings, loaded = .ok settings → ∀ limit, 1 ≤ limit ∧ signed limit ↔
        settings.telemetryMaxMegabytes = limit ∧
          (CommandLine.telemetryClient settings).RotatesBeyond (limit * 1048576)) ∧
      (∀ number, number ≤ 0 → signed number ∨ late number →
        ∃ report, reportsOn .telemetryMaxMegabytes loaded = [report] ∧
          report.problem.kind = "greater_than") ∧
      ((∀ number, ¬ signed number ∧ ¬ late number) →
        ∃ report, reportsOn .telemetryMaxMegabytes loaded = [report] ∧
          report.problem.kind = "int_parsing") := by
  intro loaded signed late
  have reports : reportsOn .telemetryMaxMegabytes loaded =
      invalid? .telemetryMaxMegabytes (some (.text text)) (readLimit (.text text)) :=
    reportsOn_of_supplied supplied
  refine ⟨exists_load_iff, ?_, ?_, ?_, ?_⟩
  · rw [reports, invalid?_eq_nil_iff]
    exact exists_congr fun limit => readLimit_text_eq_ok_iff short
  · intro settings success limit
    have holds : readLimit (.text text) = .ok settings.telemetryMaxMegabytes :=
      holds_of_supplied supplied success
    have rotates := (CommandLine.telemetryClient settings).rotatesBeyond
    rw [← readLimit_text_eq_ok_iff short, holds, Except.ok.injEq]
    constructor
    · rintro rfl
      exact ⟨rfl, rotates⟩
    · exact And.left
  · intro number nonpos written
    rw [reports, readLimit_text_of_nonpos short nonpos written]
    exact ⟨⟨.telemetryMaxMegabytes, .notPositive, .text text⟩, rfl, rfl⟩
  · intro unwritten
    rw [reports, readLimit_text_of_unwritten short unwritten]
    exact ⟨⟨.telemetryMaxMegabytes, .unreadableInteger, .text text⟩, rfl, rfl⟩

/-- A thousand megabytes, with blanks, a plus sign, a padding, an underscore and a fraction. -/
theorem load_limit_written_thousand :
    let text := "\u2003+0_0__1_000.00\n"
    let environment : Environment := [("ci_build_telemetry_max_mb", text)]
    Setting.telemetryMaxMegabytes.Supplied text environment [] ∧ text.length ≤ 4300 ∧
      load environment [] = .ok { telemetryMaxMegabytes := 1000 } ∧
      IsWrittenIn (IsSigned IsPadded) text.toList 1000 ∧
      (CommandLine.telemetryClient { telemetryMaxMegabytes := 1000 }).RotatesBeyond 1048576000 := by
  intro text environment
  have counts :
      Setting.telemetryMaxMegabytes.IsCounted ("ci_build_telemetry_max_mb", text) := by decide
  have inForce : Setting.telemetryMaxMegabytes.InForce text environment :=
    ⟨[], _, [], rfl, counts, by simp⟩
  have supplied : Setting.telemetryMaxMegabytes.Supplied text environment [] :=
    Or.inr ⟨rfl, inForce⟩
  have short : text.length ≤ 4300 := by decide
  have loaded : load environment [] = .ok { telemetryMaxMegabytes := 1000 } := by
    simp only [environment, text]
    rfl
  have equivalence := (load_limit_written supplied short).2.2.1 _ loaded 1000
  have rotates := (CommandLine.telemetryClient { telemetryMaxMegabytes := 1000 }).rotatesBeyond
  exact ⟨supplied, short, loaded, (equivalence.mpr ⟨rfl, rotates⟩).2, rotates⟩

/-- Two underscores behind a leading zero are accepted, and a minus sign behind one counts, though
neither text is regular. -/
theorem load_limit_irregular :
    (load [("CI_BUILD_TELEMETRY_MAX_MB", "0__1")] [] = .ok { telemetryMaxMegabytes := 1 } ∧
        ∀ number, ¬ IsWrittenIn (IsSigned IsRegular) "0__1".toList number) ∧
      (load [("CI_BUILD_TELEMETRY_MAX_MB", "00-1")] [] =
          .error [⟨.telemetryMaxMegabytes, .notPositive, .text "00-1"⟩] ∧
        ∀ number, ¬ IsWrittenIn (IsSigned IsRegular) "00-1".toList number) := by
  refine ⟨⟨rfl, ?_⟩, rfl, ?_⟩
  · intro number written
    rcases written.exists_isGrouped rfl (by simp) (by simp) (by decide) with ⟨digits, grouped⟩
    exact absurd grouped.isSeparate.2.2 (by decide)
  · intro number written
    rcases written.exists_isGrouped rfl (by simp) (by simp) (by decide) with ⟨digits, grouped⟩
    exact absurd (grouped.chars '-' (by decide)) (by decide)

end Settings

end BuildSteps
