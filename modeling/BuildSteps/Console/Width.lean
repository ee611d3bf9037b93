import BuildSteps.Fault
import BuildSteps.Settings.Load
import BuildSteps.Text.Digit
import BuildSteps.Text.Quoted

/-!
# The width of the console

An environment may ask for a width and a height in digits of any script; a text of other characters
asks for nothing, and so does zero. A size is refused if one of its digits stands for no place of a
number, or if there are too many of them. A console that is declared to be a terminal of the
simplest kind has the standard width, whatever is asked for.

That is so of the console that the notices are shown on, which is there before the program runs. The
console of a screen is made when it is needed, and takes its width and height from the environment
then: it may have no width at all, and if it is given both, its kind does not count.
-/

namespace BuildSteps.Console

/-- The width of a console that is asked for none. -/
def standardWidth : Nat := 80

/-- The greatest number of digits of a size. -/
def sizeLimit : Nat := 4300

/-- Why a size is refused. -/
inductive SizeError where
  | unreadable (size : String)
  | tooLong (count : Nat)
  deriving Repr, DecidableEq

/-- The number of characters of a refused size that are quoted. -/
def quotedLength : Nat := 200

/-- The wording of a reason to refuse a size. -/
def SizeError.message : SizeError → String
  | .unreadable size =>
    "invalid literal for int() with base 10: " ++
      String.ofList ((Text.quoted size.toList).take quotedLength)
  | .tooLong count =>
    "Exceeds the limit (" ++ toString sizeLimit ++
      " digits) for integer string conversion: value has " ++ toString count ++
      " digits; use sys.set_int_max_str_digits() to increase the limit"

/-- The fault that a refused size is. -/
def SizeError.fault (error : SizeError) : Fault :=
  ⟨.value, error.message⟩

/-- The size that a text asks for. -/
def readSize (size : String) : Except SizeError (Option Nat) :=
  let chars := size.toList
  let digits := (chars.map Text.digitValue?).takeWhile Option.isSome
  if chars = [] ∨ chars.any (fun char => !Text.isAnyDigit char) then .ok none
  else if sizeLimit < digits.length then .error (.tooLong digits.length)
  else if digits.length < chars.length then .error (.unreadable size)
  else .ok (some (Text.placeValue (digits.filterMap id)))

/-- The size that a variable of an environment asks for. -/
def askedSize (environment : Environment) (name : String) : Except SizeError (Option Nat) :=
  match environment.get? name with
  | some size => readSize size
  | none => .ok none

/-- Whether an environment declares the console to be a terminal. -/
def isTerminal (environment : Environment) : Bool :=
  match environment.get? "TTY_COMPATIBLE" with
  | some "0" => false
  | some "1" => true
  | _ => decide ((environment.get? "FORCE_COLOR").getD "" ≠ "")

/-- The names of terminals of the simplest kind. -/
def simpleTerminals : List String :=
  ["dumb", "unknown"]

/-- Whether an environment declares the console to be a terminal of the simplest kind. -/
def isSimpleTerminal (environment : Environment) : Bool :=
  let kind := (environment.get? "TERM").getD ""
  isTerminal environment && simpleTerminals.contains (String.ofList (Text.smalls kind.toList))

/-- The width of the console in an environment. A height has no effect, but may be refused. -/
def width (environment : Environment) : Except SizeError Nat :=
  if isSimpleTerminal environment then .ok standardWidth
  else
    match askedSize environment "COLUMNS", askedSize environment "LINES" with
    | .error error, _ => .error error
    | _, .error error => .error error
    | .ok none, _ => .ok standardWidth
    | .ok (some columns), _ => .ok (if columns = 0 then standardWidth else columns)

/-- The width of a console that is made in an environment. -/
def screenWidth (environment : Environment) : Except SizeError Nat := do
  let columns ← askedSize environment "COLUMNS"
  let lines ← askedSize environment "LINES"
  if isSimpleTerminal environment && (columns.isNone || lines.isNone) then return standardWidth
  else return columns.getD standardWidth

end BuildSteps.Console
