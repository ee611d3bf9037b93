import BuildSteps.Log.Record
import BuildSteps.Settings.Reading
import BuildSteps.Value.Dictionary

/-!
# Loading settings

Settings are given by environment variables, and explicitly by keywords, which take precedence.
Names are compared without regard to letter case; of several variables for one setting the last
one counts, of several keywords the first. Empty variables, and names that belong to no setting, are
passed over. Every setting that is given is checked, and all invalid values are reported together,
in the order of the settings.

A run gets its settings from its environment alone, and logs them if they are valid.
-/

namespace BuildSteps

/-- Environment variables in order, each name once. -/
abbrev Environment := List (String × String)

namespace Environment

/-- The environment that results from setting variables one after another. -/
def ofPairs (pairs : List (String × String)) : Environment :=
  gatherBy (fun left right => decide (left = right)) pairs

/-- The value of a variable. -/
def get? (environment : Environment) (name : String) : Option String :=
  environment.lookup name

end Environment

namespace Setting

/-- The name of the variable of a setting, in small letters. -/
def variableName (setting : Setting) : String :=
  "ci_build_" ++ setting.name

/-- Whether a name is a given one in some letter case. -/
def isNamed (wanted name : String) : Bool :=
  decide (Text.smalls name.toList = wanted.toList)

/-- The value that an environment gives for a setting. -/
def fromEnvironment? (setting : Setting) (environment : Environment) : Option String :=
  (environment.filter fun entry =>
    entry.2 ≠ "" ∧ isNamed setting.variableName entry.1).getLast?.map Prod.snd

/-- The value that keywords give for a setting. -/
def fromKeywords? (setting : Setting) (keywords : List (String × Value)) : Option Value :=
  (keywords.find? fun entry => isNamed setting.name entry.1).map Prod.snd

/-- The value that is given for a setting. -/
def given? (setting : Setting) (environment : Environment) (keywords : List (String × Value)) :
    Option Value :=
  match setting.fromKeywords? keywords with
  | some value => some value
  | none => (setting.fromEnvironment? environment).map Value.text

end Setting

namespace Settings

/-- The value of a setting: what is read from the given one, or else a default. -/
def readOr {α : Type} (standard : α) (read : Value → Except Problem α) :
    Option Value → Except Problem α
  | none => .ok standard
  | some value => read value

/-- The report on a given value that is read with a certain result. -/
def invalid? {α : Type} (setting : Setting) (given : Option Value) :
    Except Problem α → List InvalidSetting
  | .ok _ => []
  | .error problem => [⟨setting, problem, given.getD .null⟩]

/-- The settings made from the given values, or all invalid ones among them. -/
def ofGiven (given : Setting → Option Value) : Except (List InvalidSetting) Settings :=
  let standard : Settings := {}
  let level := readOr standard.logLevel readLevel (given .logLevel)
  let strict := readOr standard.strict readSwitch (given .strict)
  let directory :=
    readOr standard.telemetryDirectory readDirectory (given .telemetryDirectory)
  let limit := readOr standard.telemetryMaxMegabytes readLimit (given .telemetryMaxMegabytes)
  match level, strict, directory, limit with
  | .ok level, .ok strict, .ok directory, .ok limit => .ok ⟨level, strict, directory, limit⟩
  | _, _, _, _ =>
    .error
      (invalid? .logLevel (given .logLevel) level ++
        invalid? .strict (given .strict) strict ++
        invalid? .telemetryDirectory (given .telemetryDirectory) directory ++
        invalid? .telemetryMaxMegabytes (given .telemetryMaxMegabytes) limit)

/-- The settings that an environment and keywords give. -/
def load (environment : Environment) (keywords : List (String × Value)) :
    Except (List InvalidSetting) Settings :=
  ofGiven fun setting => setting.given? environment keywords

/-- The settings that an environment gives. -/
def ofEnvironment (environment : Environment) : Except (List InvalidSetting) Settings :=
  load environment []

/-- What comes of getting settings: the settings or all invalid values, and what is logged. -/
structure Obtained where
  result : Except (List InvalidSetting) Settings
  records : List LogRecord

/-- Gets the settings of an environment. -/
def get (environment : Environment) : Obtained :=
  match ofEnvironment environment with
  | .ok settings => ⟨.ok settings, [.settingsLoaded settings]⟩
  | .error invalids => ⟨.error invalids, []⟩

@[simp]
theorem result_get (environment : Environment) :
    (get environment).result = ofEnvironment environment := by
  unfold get
  cases ofEnvironment environment <;> rfl

end Settings

end BuildSteps
