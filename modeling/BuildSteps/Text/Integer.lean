import BuildSteps.Text.Blank
import BuildSteps.Text.Digit

/-!
# Integers in texts

A text is read as an integer in two stages. The first brings it into a plain form: white space
around it and one plus sign are left out, and so are, behind a minus sign if there is one, leading
zeros together with the underscores among them, a fraction of zeros, and underscores that stand
alone between other characters. The second reads the plain form: an optional minus sign, and digits
that do not start with a zero unless the zero is the only one. A minus sign may also stand behind
leading zeros, if there is none in front of them.

Not more than 4300 digits are read. A text that starts with more of them, of which the first is not
a zero, is too long, whatever surrounds or follows them; a text whose plain form has more of them is
unreadable like any other.
-/

namespace BuildSteps.Text

/-- Why a text is not read as an integer. -/
inductive IntegerError where
  | unreadable
  | tooLong
  deriving Repr, DecidableEq

/-- The greatest number of digits of an integer. -/
def digitLimit : Nat := 4300

/-- Whether a character is a digit from one on. -/
def isLeadingDigit (char : Char) : Bool :=
  char.isDigit && char ≠ '0'

/-- Whether a text has a minus sign, and what stands behind it. -/
def splitSign : List Char → Bool × List Char
  | '-' :: rest => (true, rest)
  | text => (false, text)

/-- A text behind a sign that may be there. -/
def withSign (negative : Bool) (text : List Char) : List Char :=
  if negative then '-' :: text else text

/-- The digits at the start of a text, of which the first is not a zero. -/
def leadingDigits : List Char → List Char
  | [] => []
  | char :: rest => if isLeadingDigit char then char :: rest.takeWhile Char.isDigit else []

/-- Whether a text starts with more digits than an integer may have. -/
def isOverlong (text : List Char) : Bool :=
  decide (digitLimit < (leadingDigits (splitSign text).2).length)

/-- A text behind a zero without the zeros and underscores that follow. The character before a
point, or before the end, is kept. -/
def unpad (last : Char) : List Char → Option (List Char)
  | [] => some [last]
  | char :: rest =>
    if char = '0' ∨ char = '_' then unpad char rest
    else if isLeadingDigit char ∨ char = '-' then some (char :: rest)
    else if char = '.' then some (last :: char :: rest)
    else none

/-- A text without leading zeros. -/
def withoutPadding : List Char → Option (List Char)
  | [] => none
  | char :: rest =>
    if char = '0' then unpad char rest
    else if isLeadingDigit char then some (char :: rest)
    else none

/-- A text without a plus sign, which no minus sign may follow. -/
def withoutPlus : List Char → Option (List Char)
  | '+' :: '-' :: _ => none
  | '+' :: rest => some rest
  | text => some text

/-- A text without a fraction that consists of zeros. -/
def withoutFraction (text : List Char) : List Char :=
  match text.dropWhile (· ≠ '.') with
  | _ :: digit :: digits =>
    if (digit :: digits).all (· = '0') then text.takeWhile (· ≠ '.') else text
  | _ => text

/-- Whether two underscores stand side by side. -/
def hasDoubleUnderscore : List Char → Bool
  | '_' :: '_' :: _ => true
  | _ :: rest => hasDoubleUnderscore rest
  | [] => false

/-- A text without underscores, if each of them stands alone between other characters. -/
def withoutUnderscores (text : List Char) : List Char :=
  if text.head? = some '_' ∨ text.getLast? = some '_' ∨ hasDoubleUnderscore text then text
  else text.filter (· ≠ '_')

/-- The plain form of a text. -/
def plainInteger (text : List Char) : Option (List Char) :=
  match withoutPlus (trim isWhiteSpace text) with
  | none => none
  | some signed =>
    let (negative, unsigned) := splitSign signed
    (withoutPadding unsigned).map fun digits =>
      withSign negative (withoutUnderscores (withoutFraction digits))

/-- The number that ASCII digits stand for. -/
def digitsValue (digits : List Char) : Nat :=
  placeValue (digits.map fun digit => digit.toNat - '0'.toNat)

/-- The number that a plain form without its sign stands for. -/
def readDigits? (text : List Char) : Option Nat :=
  if text = ['0'] then some 0
  else if text ≠ [] ∧ leadingDigits text = text ∧ text.length ≤ digitLimit then
    some (digitsValue text)
  else none

/-- The integer of a plain form. -/
def readPlain? (text : List Char) : Option Int :=
  let (negative, unsigned) := splitSign text
  (readDigits? unsigned).map fun number => if negative then -(number : Int) else number

/-- The integer that a text stands for. -/
def readInteger (text : List Char) : Except IntegerError Int :=
  if isOverlong text then .error .tooLong
  else
    match (plainInteger text).bind readPlain? with
    | some number => .ok number
    | none => .error .unreadable

end BuildSteps.Text
