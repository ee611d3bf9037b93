import BuildSteps.Decimal.Binary
import BuildSteps.Text.Integer

/-!
# A reader of JSON

A text is read as RFC 8259 has it, one character after another. What the reader knows is the lexeme
that it is in the middle of and the stage that it has reached in the grammar: the arrays and objects
that are still open, and what may come next in the innermost one. White space may stand around every
lexeme. An object keeps its members in order, and also those whose name occurs twice.

A string is read as UTF-16 units, since that is what an escape gives; at its closing quotation mark
the units are joined to characters, and a surrogate that is not half of a pair is refused. A number
is read exactly, as a significand and a power of ten.
-/

namespace BuildSteps

/-- What a text of JSON stands for. A number is a significand times a power of ten. -/
inductive Json where
  | null
  | bool (truth : Bool)
  | number (significand exponent : Int)
  | text (content : String)
  | array (items : List Json)
  | object (members : List (String × Json))

namespace Json

/-! ### Numbers and words -/

/-- The number that a text of digits stands for. -/
def natural? (digits : List Char) : Option Nat :=
  if digits ≠ [] ∧ digits.all Char.isDigit then some (Nat.ofDigitChars 10 digits 0) else none

/-- Whether digits may stand in front of the point: only a single one may start with a zero. -/
def isWholePart (digits : List Char) : Bool :=
  decide (digits = ['0'] ∨ (digits ≠ [] ∧ digits.head? ≠ some '0'))

/-- The digits behind a point, if there is one, and what follows them. -/
def fraction? : List Char → Option (List Char × List Char)
  | '.' :: rest =>
    if rest.takeWhile Char.isDigit = [] then none
    else some (rest.takeWhile Char.isDigit, rest.dropWhile Char.isDigit)
  | rest => some ([], rest)

/-- The power of ten that the end of a number stands for. -/
def exponent? : List Char → Option Int
  | [] => some 0
  | mark :: rest =>
    if mark = 'e' ∨ mark = 'E' then
      match rest with
      | '+' :: digits => (natural? digits).map (Decimal.signed false)
      | '-' :: digits => (natural? digits).map (Decimal.signed true)
      | digits => (natural? digits).map (Decimal.signed false)
    else none

/-- The number that a text stands for. -/
def number? (letters : List Char) : Option Json :=
  let (negative, unsigned) := Text.splitSign letters
  let whole := unsigned.takeWhile Char.isDigit
  if isWholePart whole then
    match fraction? (unsigned.dropWhile Char.isDigit) with
    | none => none
    | some (places, rest) =>
      (exponent? rest).map fun exponent =>
        .number (Decimal.signed negative (Nat.ofDigitChars 10 (whole ++ places) 0))
          (exponent - places.length)
  else none

example : number? "-12.50e1".toList = some (.number (-1250) (-1)) := by
  cbv

/-- The number or the word that a text stands for. -/
def scalar? (letters : List Char) : Option Json :=
  if letters = "null".toList then some .null
  else if letters = "true".toList then some (.bool true)
  else if letters = "false".toList then some (.bool false)
  else number? letters

/-! ### Strings -/

/-- The UTF-16 units of a character. -/
def utf16Units (char : Char) : List Nat :=
  if char.toNat < 0x10000 then [char.toNat]
  else [0xD800 + (char.toNat - 0x10000) / 0x400, 0xDC00 + (char.toNat - 0x10000) % 0x400]

/-- The characters of UTF-16 units, unless there is a surrogate without a partner. -/
def joinUnits? : List Nat → Option (List Char)
  | [] => some []
  | unit :: rest =>
    if unit < 0xD800 ∨ 0xE000 ≤ unit then (joinUnits? rest).map (Char.ofNat unit :: ·)
    else
      match rest with
      | [] => none
      | low :: others =>
        if unit < 0xDC00 ∧ 0xDC00 ≤ low ∧ low < 0xE000 then
          (joinUnits? others).map
            (Char.ofNat (0x10000 + (unit - 0xD800) * 0x400 + (low - 0xDC00)) :: ·)
        else none

/-- The character that a letter behind a backslash stands for. -/
def escaped? : Char → Option Char
  | '"' => some '"'
  | '\\' => some '\\'
  | '/' => some '/'
  | 'b' => some '\x08'
  | 'f' => some '\x0c'
  | 'n' => some '\n'
  | 'r' => some '\r'
  | 't' => some '\t'
  | _ => none

/-- The number that a hexadecimal digit stands for. -/
def hexValue? (char : Char) : Option Nat :=
  if '0' ≤ char ∧ char ≤ '9' then some (char.toNat - '0'.toNat)
  else if 'a' ≤ char ∧ char ≤ 'f' then some (char.toNat - 'a'.toNat + 10)
  else if 'A' ≤ char ∧ char ≤ 'F' then some (char.toNat - 'A'.toNat + 10)
  else none

/-! ### Stages of the grammar -/

/-- An array or an object that is still open, with what stands before the value that is read. -/
inductive Frame where
  | item (before : List Json)
  | member (before : List (String × Json)) (name : String)

/-- What has been read last, inside the open arrays and objects, the innermost first. -/
inductive Stage where
  /-- A value is due. -/
  | value (frames : List Frame)
  /-- An array has been opened. -/
  | firstItem (frames : List Frame)
  /-- An object has been opened. -/
  | firstName (frames : List Frame)
  /-- The name of a further member is due. -/
  | nextName (before : List (String × Json)) (frames : List Frame)
  /-- The colon behind a name is due. -/
  | behindName (before : List (String × Json)) (name : String) (frames : List Frame)
  /-- A value is complete. -/
  | behind (json : Json) (frames : List Frame)

namespace Stage

/-- The open arrays and objects, if a value may come. -/
def frames? : Stage → Option (List Frame)
  | .value frames => some frames
  | .firstItem frames => some (.item [] :: frames)
  | _ => none

/-- The members before a name and the arrays and objects outside, if a name may come. -/
def names? : Stage → Option (List (String × Json) × List Frame)
  | .firstName frames => some ([], frames)
  | .nextName before frames => some (before, frames)
  | _ => none

/-- Takes a value that is complete. -/
def take (stage : Stage) (json : Json) : Option Stage :=
  stage.frames?.map (.behind json)

/-- Takes a string, as a name or as a value. -/
def takeText (stage : Stage) (content : String) : Option Stage :=
  match stage.names? with
  | some (before, frames) => some (.behindName before content frames)
  | none => stage.take (.text content)

def closeArray : Stage → Option Stage
  | .firstItem frames => some (.behind (.array []) frames)
  | .behind json (.item before :: frames) => some (.behind (.array (before ++ [json])) frames)
  | _ => none

def closeObject : Stage → Option Stage
  | .firstName frames => some (.behind (.object []) frames)
  | .behind json (.member before name :: frames) =>
    some (.behind (.object (before ++ [(name, json)])) frames)
  | _ => none

def takeComma : Stage → Option Stage
  | .behind json (.item before :: frames) => some (.value (.item (before ++ [json]) :: frames))
  | .behind json (.member before name :: frames) =>
    some (.nextName (before ++ [(name, json)]) frames)
  | _ => none

def takeColon : Stage → Option Stage
  | .behindName before name frames => some (.value (.member before name :: frames))
  | _ => none

/-- Takes a character that is a lexeme of its own. -/
def takeMark (stage : Stage) (mark : Char) : Option Stage :=
  match mark with
  | '[' => stage.frames?.map .firstItem
  | ']' => stage.closeArray
  | '\x7b' => stage.frames?.map .firstName
  | '\x7d' => stage.closeObject
  | ',' => stage.takeComma
  | ':' => stage.takeColon
  | _ => none

end Stage

/-! ### Reading -/

def isSpace (char : Char) : Bool :=
  char == ' ' || char == '\t' || char == '\n' || char == '\r'

/-- Whether a character is a lexeme of its own. -/
def isMark (char : Char) : Bool :=
  char == '[' || char == ']' || char == '\x7b' || char == '\x7d' || char == ',' || char == ':'

/-- Whether a character ends a number or a word in front of it. -/
def isDelimiter (char : Char) : Bool :=
  isSpace char || isMark char || char == '"'

/-- The lexeme that a reader is in the middle of. -/
inductive Lexeme where
  | between
  /-- A number or a word. -/
  | bare (letters : List Char)
  /-- A string, by its UTF-16 units. -/
  | text (units : List Nat)
  /-- A string, behind a backslash. -/
  | escape (units : List Nat)
  /-- A string, in an escape of which more digits follow after the next one. -/
  | hex (units : List Nat) (more value : Nat)

/-- What a reader knows. -/
structure Reader where
  lexeme : Lexeme
  stage : Stage

namespace Reader

/-- Reads a character between lexemes. -/
def start (stage : Stage) (char : Char) : Option Reader :=
  if isSpace char then some ⟨.between, stage⟩
  else if isMark char then (stage.takeMark char).map (⟨.between, ·⟩)
  else if char = '"' then some ⟨.text [], stage⟩
  else some ⟨.bare [char], stage⟩

def step (reader : Reader) (char : Char) : Option Reader :=
  let stage := reader.stage
  match reader.lexeme with
  | .between => start stage char
  | .bare letters =>
    if isDelimiter char then
      ((scalar? letters).bind stage.take).bind fun next => start next char
    else some ⟨.bare (letters ++ [char]), stage⟩
  | .text units =>
    if char = '"' then
      ((joinUnits? units).bind fun content => stage.takeText (String.ofList content)).map
        (⟨.between, ·⟩)
    else if char = '\\' then some ⟨.escape units, stage⟩
    else if char.toNat < 0x20 then none
    else some ⟨.text (units ++ utf16Units char), stage⟩
  | .escape units =>
    if char = 'u' then some ⟨.hex units 3 0, stage⟩
    else (escaped? char).map fun meant => ⟨.text (units ++ utf16Units meant), stage⟩
  | .hex units more value =>
    (hexValue? char).map fun digit =>
      match more with
      | 0 => ⟨.text (units ++ [16 * value + digit]), stage⟩
      | fewer + 1 => ⟨.hex units fewer (16 * value + digit), stage⟩

/-- Reads characters, one after another. -/
def run (reader : Reader) (text : List Char) : Option Reader :=
  text.foldlM step reader

/-- What has been read, if a value is complete and nothing is open. -/
def outcome? : Reader → Option Json
  | ⟨.between, .behind json []⟩ => some json
  | _ => none

end Reader

/-- What a text stands for. A line end behind it completes the number or the word that may stand at
its end. -/
def read? (text : List Char) : Option Json :=
  (Reader.run ⟨.between, .value []⟩ (text ++ ['\n'])).bind Reader.outcome?

/-- Among these are a number with a zero in front, half of a pair of surrogates and a bare tab. -/
example : ["", "[1,]", "[1 2]", "01", "1.", "\"\\ud83d\"", "\"\t\"", "nul", "1]"].all
    (fun text => (read? text.toList).isNone) = true := by
  decide +kernel

end Json

end BuildSteps
