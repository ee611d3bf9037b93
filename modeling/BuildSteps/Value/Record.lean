import BuildSteps.Decimal.Text
import BuildSteps.Text.Hexadecimal
import BuildSteps.Text.Integer
import BuildSteps.Value.Basic

/-!
# Values in records

A telemetry record is one line of JSON in ASCII. Members and items are separated by a comma and a
space, names and values by a colon and a space. Characters outside ASCII and control characters,
U+007F among them, are escaped by their UTF-16 units, except the controls that have a letter of
their own; the slash stands for itself. A tuple is written as an array. Keys of a dictionary may
be texts, numbers, truth values and null, and the last three are written as texts. Bytes, sets and
paths have no written form, and neither have integers of more than 4300 digits.
-/

namespace BuildSteps

/-- Why a value has no written form. -/
inductive Unencodable where
  | value (kindName : String)
  | key (kindName : String)
  | longInteger
  deriving Repr, DecidableEq

/-- The wording of the reason. -/
def Unencodable.message : Unencodable → String
  | .value kindName => "Object of type " ++ kindName ++ " is not JSON serializable"
  | .key kindName => "keys must be str, int, float, bool or None, not " ++ kindName
  | .longInteger =>
    "Exceeds the limit (" ++ toString Text.digitLimit ++ " digits) for integer string " ++
      "conversion; use sys.set_int_max_str_digits() to increase the limit"

namespace Value

/-- The escape of one UTF-16 unit. -/
def unitEscape (unit : Nat) : List Char :=
  '\\' :: 'u' :: Text.hexDigits 4 unit

/-- A character by its UTF-16 units. -/
def unitEscapes (char : Char) : List Char :=
  if char.toNat < 0x10000 then unitEscape char.toNat
  else
    unitEscape (0xD800 + (char.toNat - 0x10000) / 0x400) ++
      unitEscape (0xDC00 + (char.toNat - 0x10000) % 0x400)

/-- A character as it stands inside the text of a record. -/
def recordChar (char : Char) : List Char :=
  if char = '"' then ['\\', '"']
  else if char = '\\' then ['\\', '\\']
  else if char = '\n' then ['\\', 'n']
  else if char = '\r' then ['\\', 'r']
  else if char = '\t' then ['\\', 't']
  else if char = '\x08' then ['\\', 'b']
  else if char = '\x0c' then ['\\', 'f']
  else if 0x20 ≤ char.toNat ∧ char.toNat < 0x7F then [char]
  else unitEscapes char

/-- A text in a record. -/
def recordText (content : List Char) : List Char :=
  '"' :: content.flatMap recordChar ++ ['"']

/-- The written form of a truth value. -/
def recordBool (truth : Bool) : List Char :=
  if truth then "true".toList else "false".toList

/-- Whether an integer has no more digits than may be written. -/
def isShort (number : Int) : Bool :=
  decide ((Nat.toDigits 10 number.natAbs).length ≤ Text.digitLimit)

/-- The written form of an integer. -/
def recordInteger (number : Int) : Except Unencodable (List Char) :=
  if isShort number then .ok (toString number).toList else .error .longInteger

theorem recordInteger_of_isShort {number : Int} (short : isShort number = true) :
    recordInteger number = .ok (toString number).toList :=
  if_pos short

theorem recordInteger_eq_ok {number : Int} {written : List Char}
    (recorded : recordInteger number = .ok written) :
    isShort number = true ∧ written = (toString number).toList := by
  unfold recordInteger at recorded
  split at recorded
  · rename_i short
    cases recorded
    exact ⟨short, rfl⟩
  · cases recorded

/-- The text that a key is written as. -/
def keyText : Value → Except Unencodable (List Char)
  | .text content => .ok content.toList
  | .int number => recordInteger number
  | .float number => .ok (Decimal.shortestText Decimal.recordSpelling number)
  | .bool truth => .ok (recordBool truth)
  | .null => .ok "null".toList
  | value => .error (.key value.kindName)

/-- The written form of an array with given items. -/
def arrayText (items : List (List Char)) : List Char :=
  '[' :: List.intercalate [',', ' '] items ++ [']']

/-- The written form of a member of an object. -/
def memberText (name : List Char) (value : List Char) : List Char :=
  recordText name ++ ':' :: ' ' :: value

/-- The written form of an object with given members. -/
def objectText (members : List (List Char)) : List Char :=
  '\x7b' :: List.intercalate [',', ' '] members ++ ['\x7d']

mutual

/-- The written form of a value, or the first reason against it. -/
def record : Value → Except Unencodable (List Char)
  | .null => .ok "null".toList
  | .bool truth => .ok (recordBool truth)
  | .int number => recordInteger number
  | .float number => .ok (Decimal.shortestText Decimal.recordSpelling number)
  | .text content => .ok (recordText content.toList)
  | .bytes content => .error (.value (Value.bytes content).kindName)
  | .path name => .error (.value (Value.path name).kindName)
  | .list items => (recordItems items).map arrayText
  | .tuple items => (recordItems items).map arrayText
  | .set items => .error (.value (Value.set items).kindName)
  | .dict entries => (recordEntries entries).map objectText
termination_by structural value => value

/-- The written forms of some values. -/
def recordItems : List Value → Except Unencodable (List (List Char))
  | [] => .ok []
  | item :: items =>
    match record item with
    | .error reason => .error reason
    | .ok written => (recordItems items).map (written :: ·)
termination_by structural items => items

/-- The written forms of the entries of a dictionary. -/
def recordEntries : List (Value × Value) → Except Unencodable (List (List Char))
  | [] => .ok []
  | (key, value) :: entries =>
    match keyText key with
    | .error reason => .error reason
    | .ok name =>
      match record value with
      | .error reason => .error reason
      | .ok written => (recordEntries entries).map (memberText name written :: ·)
termination_by structural entries => entries

end

end Value

end BuildSteps
