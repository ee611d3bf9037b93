import BuildSteps.Decimal.Binary
import BuildSteps.Settings.Problem
import BuildSteps.Text.Casing
import BuildSteps.Text.Integer

/-!
# Reading the values of settings

Each setting reads the values that are given for it in its own way. Texts come from the
environment; values of other kinds are given explicitly.
-/

namespace BuildSteps.Settings

/-- The level whose name a value is, in any letter case and with blanks around it. -/
def readLevel (given : Value) : Except Problem Level :=
  let text := given.plainText
  let word := Text.capitals (Text.trim Text.isBlank text)
  match Level.all.find? fun level => level.name.toList = word with
  | some level => .ok level
  | none => .error (.unknownLevel text)

/-- The words for a switch that is on. -/
def onWords : List String := ["1", "on", "t", "true", "y", "yes"]

/-- The words for a switch that is off. -/
def offWords : List String := ["0", "off", "f", "false", "n", "no"]

/-- The switch that a text is a word for, in any case of its ASCII letters. -/
def readSwitchWord (text : String) : Except Problem Bool :=
  let word := String.ofList (text.toList.map Char.toLower)
  if word ∈ onWords then .ok true
  else if word ∈ offWords then .ok false
  else .error .unreadableSwitch

/-- The switch that an integer stands for. -/
def readSwitchNumber (number : Int) : Except Problem Bool :=
  if number = 1 then .ok true
  else if number = 0 then .ok false
  else .error .unreadableSwitch

/-- The number of integers without a minus sign that fit into 64 bits. -/
def wordLimit : Nat := 0x8000000000000000

/-- Whether an integer fits into 64 bits with a sign. -/
def isWord (number : Int) : Bool :=
  decide (-(wordLimit : Int) ≤ number) && decide (number < wordLimit)

/-- The integer that a double is, or what stands against it. The least integer of 64 bits is not
taken from a double. -/
def wholeNumber (number : Float) : Except Problem Int :=
  match Decimal.reading number with
  | .finite negative magnitude =>
    match magnitude.whole? with
    | none => .error .fractional
    | some size =>
      if size < wordLimit then .ok (Decimal.signed negative size) else .error .integerTooLong
  | _ => .error .notFinite

/-- The switch that a value stands for. -/
def readSwitch : Value → Except Problem Bool
  | .bool truth => .ok truth
  | .text content => readSwitchWord content
  | .bytes content => readSwitchWord content
  | .int number => if isWord number then readSwitchNumber number else .error .noSwitch
  | .float number =>
    match wholeNumber number with
    | .ok whole => readSwitchNumber whole
    | .error _ => .error .noSwitch
  | _ => .error .noSwitch

/-- The directory that a value names; blank texts name none. -/
def readDirectory : Value → Except Problem (Option PathName)
  | .null => .ok none
  | .path name => .ok (some name)
  | .text content =>
    if content.toList.all Text.isBlank then .ok none else .ok (some (.ofText content))
  | _ => .error .noPath

/-- The integer that a text stands for. -/
def readNumber (text : String) : Except Problem Int :=
  match Text.readInteger text.toList with
  | .ok number => .ok number
  | .error .unreadable => .error .unreadableInteger
  | .error .tooLong => .error .integerTooLong

/-- The integer that a value stands for. -/
def readWhole : Value → Except Problem Int
  | .bool truth => .ok (if truth then 1 else 0)
  | .int number => .ok number
  | .float number => wholeNumber number
  | .text content => readNumber content
  | .bytes content => readNumber content
  | _ => .error .noInteger

/-- The limit that a value stands for, a positive integer. -/
def readLimit (given : Value) : Except Problem Int :=
  match readWhole given with
  | .ok number => if 0 < number then .ok number else .error .notPositive
  | .error problem => .error problem

end BuildSteps.Settings
