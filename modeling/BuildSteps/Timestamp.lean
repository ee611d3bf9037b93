import BuildSteps.Decimal.Text

/-!
# Timestamps

An instant is a number of microseconds since the start of 1970 in UTC. Its text gives the date of
the Gregorian calendar, the time of day and the offset of UTC; the fraction of a second has six
digits, and is left out when it is zero. The year has four digits, so the text is meant for the
years 1 to 9999.

A date is found from the number of days since the first day of year 1, by taking out whole cycles
of 400, 100, 4 and 1 years, and then whole months.
-/

namespace BuildSteps

/-- A day of the Gregorian calendar. -/
structure Date where
  year : Nat
  month : Nat
  day : Nat
  deriving Repr, DecidableEq

namespace Date

/-- Whether a year has 366 days. -/
def isLeap (year : Nat) : Bool :=
  decide (year % 4 = 0 ∧ (year % 100 ≠ 0 ∨ year % 400 = 0))

/-- The lengths of the months of a year. -/
def monthLengths (year : Nat) : List Nat :=
  [31, if isLeap year then 29 else 28, 31, 30, 31, 30, 31, 31, 30, 31, 30, 31]

/-- The month and the day of the month that a number of days leads to, counting from a month with
the given number. -/
def inMonths (month : Nat) : List Nat → Nat → Nat × Nat
  | [], days => (month, days + 1)
  | length :: lengths, days =>
    if days < length then (month, days + 1) else inMonths (month + 1) lengths (days - length)

/-- The date a number of days after the first day of year 1. -/
def ofDays (days : Nat) : Date :=
  let fourCenturies := days / 146097
  let inFourCenturies := days % 146097
  let centuries := min (inFourCenturies / 36524) 3
  let inCentury := inFourCenturies - centuries * 36524
  let fourYears := inCentury / 1461
  let inFourYears := inCentury % 1461
  let years := min (inFourYears / 365) 3
  let year := 400 * fourCenturies + 100 * centuries + 4 * fourYears + years + 1
  let (month, day) := inMonths 1 (monthLengths year) (inFourYears - years * 365)
  ⟨year, month, day⟩

end Date

namespace Timestamp

/-- The number of days from the first day of year 1 to the first day of 1970. -/
def daysToEpoch : Int := 719162

/-- The number of microseconds in a day. -/
def dayLength : Int := 86400000000

/-- A number with at least a given number of digits. -/
def padded (width number : Nat) : List Char :=
  Decimal.padLeft width (Decimal.digitsOf number)

/-- The text of a date. -/
def dateText (date : Date) : List Char :=
  padded 4 date.year ++ '-' :: padded 2 date.month ++ '-' :: padded 2 date.day

/-- The text of a time of day, given in microseconds since midnight. -/
def clockText (microseconds : Nat) : List Char :=
  let seconds := microseconds / 1000000
  let fraction := microseconds % 1000000
  padded 2 (seconds / 3600) ++ ':' :: padded 2 (seconds / 60 % 60) ++
    ':' :: padded 2 (seconds % 60) ++ (if fraction = 0 then [] else '.' :: padded 6 fraction)

/-- The text of an instant. -/
def text (instant : Int) : String :=
  String.ofList
    (dateText (Date.ofDays (instant / dayLength + daysToEpoch).toNat) ++
      'T' :: clockText (instant % dayLength).toNat ++ "+00:00".toList)

end Timestamp

end BuildSteps
