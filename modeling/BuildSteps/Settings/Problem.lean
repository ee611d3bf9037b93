import BuildSteps.Settings.Basic
import BuildSteps.Text.Excerpt
import BuildSteps.Value.Literal

/-!
# Problems with settings

A value that is given for a setting may be invalid for one of a few reasons. Each reason has a
kind and a wording, and the report on all invalid values shows each of them with the value.
-/

namespace BuildSteps

/-- The names of the settings. -/
inductive Setting where
  | logLevel
  | strict
  | telemetryDirectory
  | telemetryMaxMegabytes
  deriving Repr, DecidableEq

namespace Setting

/-- The name under which a setting is given and reported. -/
def name : Setting → String
  | .logLevel => "log_level"
  | .strict => "strict"
  | .telemetryDirectory => "telemetry_dir"
  | .telemetryMaxMegabytes => "telemetry_max_mb"

/-- All settings, in the order in which they are checked. -/
def all : List Setting :=
  [.logLevel, .strict, .telemetryDirectory, .telemetryMaxMegabytes]

end Setting

/-- Why a value is invalid for a setting. -/
inductive Problem where
  /-- A text is the name of no level. -/
  | unknownLevel (text : List Char)
  /-- A value is of no kind that a switch is read from. -/
  | noSwitch
  /-- A text or a number stands for no state of a switch. -/
  | unreadableSwitch
  /-- A value is of no kind that a path is read from. -/
  | noPath
  /-- A value is of no kind that an integer is read from. -/
  | noInteger
  /-- A text stands for no integer. -/
  | unreadableInteger
  /-- An integer has too many digits, or a double is beyond 64 bits. -/
  | integerTooLong
  /-- A double is not whole. -/
  | fractional
  /-- A double is infinite or no number. -/
  | notFinite
  /-- An integer is zero or less. -/
  | notPositive
  deriving Repr, DecidableEq

namespace Problem

/-- The kind of a problem. -/
def kind : Problem → String
  | .unknownLevel _ => "value_error"
  | .noSwitch => "bool_type"
  | .unreadableSwitch => "bool_parsing"
  | .noPath => "path_type"
  | .noInteger => "int_type"
  | .unreadableInteger => "int_parsing"
  | .integerTooLong => "int_parsing_size"
  | .fractional => "int_from_float"
  | .notFinite => "finite_number"
  | .notPositive => "greater_than"

/-- The wording of a problem. -/
def message : Problem → String
  | .unknownLevel text =>
    "Value error, Invalid log level '" ++ String.ofList text ++ "' (expected one of: " ++
      ", ".intercalate (Level.all.map Level.name) ++ ")"
  | .noSwitch => "Input should be a valid boolean"
  | .unreadableSwitch => "Input should be a valid boolean, unable to interpret input"
  | .noPath => "Input is not a valid path for <class 'pathlib.Path'>"
  | .noInteger => "Input should be a valid integer"
  | .unreadableInteger =>
    "Input should be a valid integer, unable to parse string as an integer"
  | .integerTooLong => "Unable to parse input string as an integer, exceeded maximum size"
  | .fractional => "Input should be a valid integer, got a number with a fractional part"
  | .notFinite => "Input should be a finite number"
  | .notPositive => "Input should be greater than 0"

/-- Whether the kind of a problem is explained on a page of its own. -/
def isExplained : Problem → Bool
  | .noPath => false
  | _ => true

end Problem

/-- A setting with an invalid value, and the reason. -/
structure InvalidSetting where
  setting : Setting
  problem : Problem
  given : Value

namespace InvalidSetting

/-- The beginning of the address of the page that explains a kind of problems. -/
def pages : String := "https://errors.pydantic.dev/2.14/v/"

/-- The lines of the report on an invalid value. -/
def lines (invalid : InvalidSetting) : List String :=
  let problem := invalid.problem
  [invalid.setting.name,
    "  " ++ problem.message ++ " [type=" ++ problem.kind ++ ", input_value=" ++
      String.ofList (Text.excerpt invalid.given.literal) ++ ", input_type=" ++
      invalid.given.kindName ++ "]"] ++
    if problem.isExplained then
      ["    For further information visit " ++ pages ++ problem.kind]
    else []

/-- The report on all invalid values. -/
def report (invalids : List InvalidSetting) : String :=
  let noun := if invalids.length = 1 then " validation error" else " validation errors"
  let heading := toString invalids.length ++ noun ++ " for CIBuildSettings"
  "\n".intercalate (heading :: invalids.flatMap lines)

end InvalidSetting

end BuildSteps
