import BuildSteps.Proofs.Files.PathText
import BuildSteps.Proofs.Settings.InForce
import BuildSteps.Proofs.Settings.Numerals

/-!
# Settings are kept when they are loaded again

Values are read for settings in many forms, and what is read is in a form of its own: a level by its
name in capitals, a switch, a path name in normal form, a positive integer. Settings that were
accepted once are therefore given back unchanged by their own values, whether these are handed over
as keywords or written to the environment as texts. Only two values have no text that is read as
they are: a directory whose name is blank, and an integer that has too many digits.
-/

namespace BuildSteps

/-- The name of the variable of a setting, as it is usually written. -/
def Setting.environmentName : Setting → String
  | .logLevel => "CI_BUILD_LOG_LEVEL"
  | .strict => "CI_BUILD_STRICT"
  | .telemetryDirectory => "CI_BUILD_TELEMETRY_DIR"
  | .telemetryMaxMegabytes => "CI_BUILD_TELEMETRY_MAX_MB"

namespace Settings

/-- The value that settings have for one of the four. -/
def keyword (settings : Settings) : Setting → Value
  | .logLevel => .text settings.logLevel.name
  | .strict => .bool settings.strict
  | .telemetryDirectory => (settings.telemetryDirectory.map Value.path).getD .null
  | .telemetryMaxMegabytes => .int settings.telemetryMaxMegabytes

/-- The values of settings, as keywords. -/
def keywords (settings : Settings) : List (String × Value) :=
  Setting.all.map fun setting => (setting.name, settings.keyword setting)

/-- The text of the value that settings have for one of the four, unless there is none. -/
def written? (settings : Settings) : Setting → Option String
  | .logLevel => some settings.logLevel.name
  | .strict => some (if settings.strict then "true" else "false")
  | .telemetryDirectory => settings.telemetryDirectory.map PathName.text
  | .telemetryMaxMegabytes => some (toString settings.telemetryMaxMegabytes)

/-- The values of settings, as environment variables. -/
def exported (settings : Settings) : Environment :=
  Setting.all.filterMap fun setting =>
    (settings.written? setting).map fun value => (setting.environmentName, value)

/-- Settings can be written to the environment if their directory has a name that is not blank, and
their limit has no more digits than are read. -/
def IsWritable (settings : Settings) : Prop :=
  (∀ path ∈ settings.telemetryDirectory, path.text.toList.all Text.isBlank = false) ∧
    (toString settings.telemetryMaxMegabytes).length ≤ 4300

section Given

variable {environment : Environment} {given : List (String × Value)} {settings : Settings}

theorem isNamed_name (setting other : Setting) :
    Setting.isNamed setting.name other.name = decide (other = setting) := by
  cases setting <;> cases other <;> decide

theorem given?_keywords (settings : Settings) (setting : Setting) (environment : Environment) :
    setting.given? environment settings.keywords = some (settings.keyword setting) := by
  have found : setting.fromKeywords? settings.keywords = some (settings.keyword setting) := by
    rw [Setting.fromKeywords?, keywords, Setting.all]
    cases setting <;> simp [isNamed_name]
  rw [Setting.given?, found]

theorem isCounted_environmentName_iff {setting other : Setting} {value : String} :
    other.IsCounted (setting.environmentName, value) ↔ value ≠ "" ∧ other = setting := by
  have names : Text.smalls setting.environmentName.toList = ("ci_build_" ++ other.name).toList ↔
      other = setting := by
    cases setting <;> cases other <;> decide
  rw [Setting.IsCounted, names]

/-- No value of writable settings is written as the empty text. -/
theorem written?_ne_empty {setting : Setting} {value : String} (writable : settings.IsWritable)
    (given : settings.written? setting = some value) : value ≠ "" := by
  rintro rfl
  cases setting with
  | logLevel =>
      cases level : settings.logLevel <;> simp [written?, level, Level.name] at given
  | strict => cases strict : settings.strict <;> simp [written?, strict] at given
  | telemetryDirectory =>
      rw [written?, Option.map_eq_some_iff] at given
      rcases given with ⟨path, named, empty⟩
      have visible := writable.1 path named
      rw [empty] at visible
      cases visible
  | telemetryMaxMegabytes =>
      have written := Json.toList_toString settings.telemetryMaxMegabytes
      rw [written?, Option.some.injEq] at given
      rw [given, Text.withSign] at written
      split at written
      · cases written
      · exact Nat.toDigits_ne_nil written.symm

/-- What is exported for a setting is found for it. -/
theorem fromEnvironment?_exported (writable : settings.IsWritable) (setting : Setting) :
    setting.fromEnvironment? settings.exported = settings.written? setting := by
  -- A variable counts for the setting that it is written for, and for no other.
  have counts : ∀ other : Setting,
      ((settings.written? other).map fun value => (other.environmentName, value)).any
          (fun entry => decide (setting.IsCounted entry)) =
        (decide (other = setting) && (settings.written? other).isSome) := by
    intro other
    cases given : settings.written? other with
    | none => simp
    | some value =>
        have nonempty := written?_ne_empty writable given
        simp [isCounted_environmentName_iff, nonempty, eq_comm]
  rw [Setting.fromEnvironment?_eq_find?, exported, ← List.filterMap_reverse,
    List.find?_filterMap]
  simp only [counts]
  cases given : settings.written? setting with
  | none =>
      have nothing : (Setting.all.reverse.find? fun other =>
          decide (other = setting) && (settings.written? other).isSome) = none := by
        rw [List.find?_eq_none]
        intro other _ impossible
        rw [Bool.and_eq_true, decide_eq_true_eq] at impossible
        rcases impossible with ⟨rfl, isSome⟩
        rw [given] at isSome
        cases isSome
      rw [nothing]
      rfl
  | some value =>
      have found : (Setting.all.reverse.find? fun other =>
          decide (other = setting) && (settings.written? other).isSome) = some setting := by
        have isSome : (settings.written? setting).isSome = true := by rw [given]; rfl
        cases setting <;> simp [Setting.all, isSome]
      rw [found, Option.bind_some, given]
      rfl

theorem inForce_exported_iff (writable : settings.IsWritable) {setting : Setting}
    {value : String} :
    setting.InForce value settings.exported ↔ settings.written? setting = some value := by
  rw [← Setting.fromEnvironment?_eq_some_iff, fromEnvironment?_exported writable]

end Given

section Accepted

variable {environment : Environment} {given : List (String × Value)} {settings : Settings}

/-- The limit of loaded settings is positive, by its check or as the default. -/
theorem positive_of_load (loaded : load environment given = .ok settings) :
    0 < settings.telemetryMaxMegabytes := by
  rw [load, ofGiven_eq_ok_iff] at loaded
  have holds := loaded .telemetryMaxMegabytes
  simp only [Holds, readOr] at holds
  split at holds
  · rw [Except.ok.injEq] at holds
    rw [← holds]
    decide
  · simp only [readLimit] at holds
    split at holds
    · split at holds
      · rename_i positive
        cases holds
        exact positive
      · cases holds
    · cases holds

/-- A value is given by a keyword, or as a text by the environment. -/
theorem given?_cases {setting : Setting} {value : Value}
    (chosen : setting.given? environment given = some value) :
    (∃ name, (name, value) ∈ given) ∨ ∃ content, value = .text content := by
  cases found : setting.fromKeywords? given with
  | some keyword =>
      simp only [Setting.given?, found, Option.some.injEq] at chosen
      rw [Setting.fromKeywords?, Option.map_eq_some_iff] at found
      rcases found with ⟨entry, listed, rfl⟩
      subst chosen
      exact Or.inl ⟨entry.1, List.mem_of_find?_eq_some listed⟩
  | none =>
      simp only [Setting.given?, found, Option.map_eq_some_iff] at chosen
      rcases chosen with ⟨content, -, rfl⟩
      exact Or.inr ⟨content, rfl⟩

/-- The directory of accepted settings has been read from a text. -/
theorem isNormal_of_load
    (real : ∀ entry ∈ given, ∀ path, entry.2 = .path path → ∃ text, path = .ofText text)
    (loaded : load environment given = .ok settings) :
    ∀ path ∈ settings.telemetryDirectory, path.IsNormal := by
  intro path named
  rw [Option.mem_def] at named
  rw [load, ofGiven_eq_ok_iff] at loaded
  have holds := loaded .telemetryDirectory
  simp only [Holds, readOr, named] at holds
  cases chosen : Setting.telemetryDirectory.given? environment given with
  | none =>
      rw [chosen] at holds
      cases holds
  | some value =>
      rw [chosen] at holds
      cases value with
      | text content =>
          simp only [readDirectory] at holds
          split at holds
          · cases holds
          · cases holds
            exact PathName.isNormal_ofText content
      | path name =>
          cases holds
          rcases given?_cases chosen with ⟨word, occurs⟩ | ⟨content, impossible⟩
          · rcases real (word, .path path) occurs path rfl with ⟨text, rfl⟩
            exact PathName.isNormal_ofText text
          · cases impossible
      | _ => cases holds

end Accepted

section Again

variable {settings : Settings} {environment : Environment}

/-- Settings hold their own values when these are given directly. -/
theorem holds_keyword (positive : 0 < settings.telemetryMaxMegabytes) (setting : Setting) :
    Holds setting (some (settings.keyword setting)) settings := by
  cases setting with
  | logLevel =>
      cases level : settings.logLevel <;> simp only [Holds, readOr, keyword, level] <;> rfl
  | strict => rfl
  | telemetryDirectory =>
      cases named : settings.telemetryDirectory <;>
        simp only [Holds, readOr, keyword, named] <;> rfl
  | telemetryMaxMegabytes =>
      simp only [Holds, readOr, keyword, readLimit, readWhole, positive, if_true]

/-- Settings hold their own values when these are given as texts. -/
theorem holds_written (positive : 0 < settings.telemetryMaxMegabytes)
    (normal : ∀ path ∈ settings.telemetryDirectory, path.IsNormal)
    (writable : settings.IsWritable) (setting : Setting) :
    Holds setting ((settings.written? setting).map Value.text) settings := by
  cases setting with
  | logLevel =>
      cases level : settings.logLevel <;> simp only [Holds, readOr, written?, level] <;> rfl
  | strict =>
      cases strict : settings.strict <;> simp only [Holds, readOr, written?, strict] <;> rfl
  | telemetryDirectory =>
      cases named : settings.telemetryDirectory with
      | none =>
          simp only [Holds, readOr, written?, named]
          rfl
      | some path =>
          have visible := writable.1 path named
          have same := PathName.ofText_text (normal path named)
          simp only [Holds, readOr, written?, named, Option.map_some, readDirectory, visible,
            Bool.false_eq_true, if_false, same]
  | telemetryMaxMegabytes =>
      have read := Text.readInteger_toString positive writable.2
      simp only [Holds, readOr, written?, Option.map_some, readLimit, readWhole, readNumber, read,
        positive, if_true]

theorem load_keywords (positive : 0 < settings.telemetryMaxMegabytes) (environment : Environment) :
    load environment settings.keywords = .ok settings := by
  rw [load, ofGiven_eq_ok_iff]
  intro setting
  rw [given?_keywords]
  exact holds_keyword positive setting

theorem ofEnvironment_exported (positive : 0 < settings.telemetryMaxMegabytes)
    (normal : ∀ path ∈ settings.telemetryDirectory, path.IsNormal)
    (writable : settings.IsWritable) : ofEnvironment settings.exported = .ok settings := by
  rw [ofEnvironment_eq_ofGiven, ofGiven_eq_ok_iff]
  intro setting
  rw [effective, fromEnvironment?_exported writable]
  exact holds_written positive normal writable setting

end Again

/-- Accepted settings are loaded again from their own values: from keywords in any environment, and,
if they can be written to the environment, from every environment in which their values, and no
others, are in force. They have one of the five levels, and a limit of one megabyte at least. A path
name that is given as such stands for some text, as every path name does. -/
theorem load_again {environment : Environment} {given : List (String × Value)}
    {settings : Settings}
    (real : ∀ entry ∈ given, ∀ path, entry.2 = .path path → ∃ text, path = .ofText text)
    (loaded : load environment given = .ok settings) :
    (∀ other, load other settings.keywords = .ok settings) ∧
    (settings.IsWritable →
      ofEnvironment settings.exported = .ok settings ∧
        ∀ other, (∀ (setting : Setting) value, setting.InForce value other ↔
            settings.written? setting = some value) →
          ofEnvironment other = .ok settings) ∧
    settings.logLevel.name ∈ ["DEBUG", "INFO", "WARNING", "ERROR", "CRITICAL"] ∧
    1 ≤ settings.telemetryMaxMegabytes := by
  have positive := positive_of_load loaded
  refine ⟨load_keywords positive, ?_, ?_, positive⟩
  · intro writable
    have written := ofEnvironment_exported positive (isNormal_of_load real loaded) writable
    refine ⟨written, ?_⟩
    intro other same
    rw [← written]
    apply ofEnvironment_congr
    intro setting value
    rw [same, inForce_exported_iff writable]
  · cases settings.logLevel <;> decide

/-- A level with blanks around it, a word for a switch, a path name with superfluous slashes and an
integer with a plus sign and leading zeros. -/
theorem load_again_spelled :
    let environment : Environment := [("Ci_Build_Log_Level", " info ")]
    let given := [("STRICT", Value.text "Yes"), ("telemetry_dir", .path (.ofText "//logs//./ci/")),
      ("telemetry_max_mb", .text " +007 ")]
    let settings : Settings := ⟨.info, true, some ⟨.doubleRoot, ["logs", "ci"]⟩, 7⟩
    load environment given = .ok settings ∧ settings.IsWritable ∧
      settings.exported =
        [("CI_BUILD_LOG_LEVEL", "INFO"), ("CI_BUILD_STRICT", "true"),
          ("CI_BUILD_TELEMETRY_DIR", "//logs/ci"), ("CI_BUILD_TELEMETRY_MAX_MB", "7")] ∧
      ofEnvironment settings.exported = .ok settings ∧
      load environment settings.keywords = .ok settings := by
  intro environment given settings
  have loaded : load environment given = .ok settings := by rfl
  have real : ∀ entry ∈ given, ∀ path, entry.2 = .path path → ∃ text, path = .ofText text := by
    intro entry occurs path isPath
    simp only [given, List.mem_cons, List.not_mem_nil, or_false] at occurs
    rcases occurs with rfl | rfl | rfl
    · cases isPath
    · cases isPath
      exact ⟨_, rfl⟩
    · cases isPath
  have writable : settings.IsWritable := by
    constructor
    · rintro path ⟨⟩
      decide
    · decide
  rcases load_again real loaded with ⟨again, written, -, -⟩
  exact ⟨loaded, writable, rfl, (written writable).1, again environment⟩

end Settings

end BuildSteps
