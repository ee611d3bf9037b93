import BuildSteps.Decimal.Rounding
import BuildSteps.Decimal.Shortest

/-!
# Text of doubles

Durations are written in two ways. In records and messages a double is written with the fewest
digits that read back, positionally while the exponent of its leading digit lies between -4 and
15, and otherwise with a signed exponent of at least two digits; a whole number keeps one zero
behind the point. In progress lines a duration has a fixed number of places, and the exact value
is rounded, a half to the even neighbour. The sign of zero is kept in both.
-/

namespace BuildSteps.Decimal

/-- The digits of a natural number. -/
def digitsOf (number : Nat) : List Char :=
  Nat.toDigits 10 number

/-- Digits padded with zeros on the left to a width. -/
def padLeft (width : Nat) (digits : List Char) : List Char :=
  List.replicate (width - digits.length) '0' ++ digits

/-- Digits without the zeros at their end. -/
def dropTrailingZeros (digits : List Char) : List Char :=
  (digits.reverse.dropWhile (· == '0')).reverse

/-- Digits with a point behind the leading one, if others follow. -/
def pointed : List Char → List Char
  | [] => []
  | [digit] => [digit]
  | digit :: rest => digit :: '.' :: rest

/-- The exponent of a number in scientific form. -/
def exponentText (exponent : Int) : List Char :=
  (if exponent < 0 then '-' else '+') :: padLeft 2 (digitsOf exponent.natAbs)

/-- Digits with the point set for a given exponent of the leading digit. -/
def layout (digits : List Char) (exponent : Int) : List Char :=
  if exponent < -4 ∨ 16 ≤ exponent then
    pointed digits ++ 'e' :: exponentText exponent
  else if exponent < 0 then
    '0' :: '.' :: List.replicate (-exponent - 1).toNat '0' ++ digits
  else
    let whole := digits.take (exponent.toNat + 1)
    let fraction := digits.drop (exponent.toNat + 1)
    whole ++ List.replicate (exponent.toNat + 1 - whole.length) '0' ++
      '.' :: (if fraction = [] then ['0'] else fraction)

/-- The text of a decimal above zero. -/
def Scientific.text (decimal : Scientific) : List Char :=
  let digits := digitsOf decimal.digits
  layout (dropTrailingZeros digits) (decimal.exponent + (digits.length : Int) - 1)

/-- The text of a magnitude with the fewest digits that read back. -/
def Magnitude.text (magnitude : Magnitude) : List Char :=
  if magnitude.significand = 0 then ['0', '.', '0'] else magnitude.shortest.text

/-- A text behind a minus sign if it is negative. -/
def withSign (negative : Bool) (text : List Char) : List Char :=
  if negative then '-' :: text else text

/-- The spellings of the doubles that are no finite numbers. -/
structure Spelling where
  notANumber : String
  infinity : String

/-- The spelling of messages. -/
def messageSpelling : Spelling := ⟨"nan", "inf"⟩

/-- The spelling of records. -/
def recordSpelling : Spelling := ⟨"NaN", "Infinity"⟩

/-- The text of a double with the fewest digits that read back. -/
def shortestText (spelling : Spelling) (value : Float) : List Char :=
  match reading value with
  | .notANumber => spelling.notANumber.toList
  | .infinite negative => withSign negative spelling.infinity.toList
  | .finite negative magnitude => withSign negative magnitude.text

/-- A magnitude in units of 10^-places, rounded. -/
def Magnitude.inUnits (places : Nat) (magnitude : Magnitude) : Nat :=
  roundQuotient (magnitude.ratio.1 * Nat.pow 10 places) magnitude.ratio.2

/-- A number of units of 10^-places with the point set. -/
def fixedLayout (places units : Nat) : List Char :=
  let digits := padLeft (places + 1) (digitsOf units)
  digits.take (digits.length - places) ++ '.' :: digits.drop (digits.length - places)

/-- The text of a double with a fixed number of places, at least one. -/
def fixedText (places : Nat) (value : Float) : List Char :=
  match reading value with
  | .notANumber => messageSpelling.notANumber.toList
  | .infinite negative => withSign negative messageSpelling.infinity.toList
  | .finite negative magnitude => withSign negative (fixedLayout places (magnitude.inUnits places))

/-- The double nearest to a double that is rounded to a number of places. -/
def roundPlaces (places : Nat) (value : Float) : Float :=
  match reading value with
  | .finite negative magnitude =>
    let rounded := Float.ofScientific (magnitude.inUnits places) true places
    if negative then -rounded else rounded
  | _ => value

end BuildSteps.Decimal
