import Mathlib.Algebra.Order.BigOperators.Group.List
import Mathlib.Algebra.Order.Ring.Nat
import Mathlib.Data.List.GetD
import BuildSteps.Timestamp

/-!
# The calendar in the order of days

Years and months have their lengths, so each date has a number: the days of the years before its
own, the days of the months before its own, and the days before it in its month. A date that comes
before another one, by the year, else the month, else the day, has a smaller number.

A date is computed from its number by divisions, with exceptions for the last days of 4 and of 400
years. `exists_ofDays` compares these divisions with the lengths of years, where the exceptions are
the leap days. So the computed date is one that the calendar has, and it has the number that it was
computed from; therefore dates are in the order of days.
-/

namespace BuildSteps.Date

/-! ### Lengths of years and months -/

/-- The number of days of the first years of the calendar, from year 1 on. -/
def daysOfYears : Nat → Nat
  | 0 => 0
  | years + 1 => daysOfYears years + (monthLengths (years + 1)).sum

/-- The number of days of the first months of a year. -/
def daysOfMonths (year months : Nat) : Nat :=
  ((monthLengths year).take months).sum

/-- A date of the calendar is one of the days that its month has. -/
structure IsValid (date : Date) : Prop where
  year_pos : 0 < date.year
  month_pos : 0 < date.month
  day_pos : 0 < date.day
  day_le : date.day ≤ (monthLengths date.year).getD (date.month - 1) 0

/-- The number of days from the first day of year 1 to a date. -/
def number (date : Date) : Nat :=
  daysOfYears (date.year - 1) + daysOfMonths date.year (date.month - 1) + (date.day - 1)

theorem sum_monthLengths (year : Nat) :
    (monthLengths year).sum = if isLeap year = true then 366 else 365 := by
  unfold monthLengths
  split <;> rfl

/-- Every fourth year has a leap day, except for three of four years that are divisible by 100. -/
theorem daysOfYears_eq (years : Nat) :
    daysOfYears years = 365 * years + years / 4 - years / 100 + years / 400 := by
  induction years with
  | zero => rfl
  | succ years ih =>
      rw [daysOfYears, ih, sum_monthLengths]
      simp only [isLeap, decide_eq_true_eq]
      split <;> omega

theorem daysOfYears_mono {few many : Nat} (le : few ≤ many) :
    daysOfYears few ≤ daysOfYears many :=
  monotone_nat_of_le_succ (fun _ => Nat.le_add_right ..) le

theorem sum_take_succ_getD (lengths : List Nat) (index : Nat) :
    (lengths.take (index + 1)).sum = (lengths.take index).sum + lengths.getD index 0 := by
  induction lengths generalizing index with
  | nil => simp
  | cons length rest ih =>
      cases index with
      | zero => simp
      | succ index =>
          rw [List.take_succ_cons, List.take_succ_cons, List.sum_cons, List.sum_cons, ih,
            List.getD_cons_succ, Nat.add_assoc]

theorem daysOfMonths_mono (year : Nat) {few many : Nat} (le : few ≤ many) :
    daysOfMonths year few ≤ daysOfMonths year many :=
  List.monotone_sum_take (monthLengths year) le

theorem daysOfMonths_le (year months : Nat) :
    daysOfMonths year months ≤ (monthLengths year).sum := by
  rw [daysOfMonths, ← List.sum_take_add_sum_drop (monthLengths year) months]
  exact Nat.le_add_right ..

namespace IsValid

variable {date : Date}

/-- The days of a month lie before those of the next month. -/
theorem days_lt (valid : date.IsValid) :
    daysOfMonths date.year (date.month - 1) + (date.day - 1) <
      daysOfMonths date.year date.month := by
  have next := sum_take_succ_getD (monthLengths date.year) (date.month - 1)
  rw [Nat.sub_add_cancel valid.month_pos] at next
  have day := valid.day_le
  have positive := valid.day_pos
  rw [daysOfMonths, daysOfMonths, next]
  omega

/-- The days of a year lie before those of the next year. -/
theorem number_lt (valid : date.IsValid) : date.number < daysOfYears date.year := by
  have days := valid.days_lt
  have within := daysOfMonths_le date.year date.month
  have year : daysOfYears date.year =
      daysOfYears (date.year - 1) + (monthLengths date.year).sum := by
    obtain ⟨years, isNext⟩ := Nat.exists_eq_succ_of_ne_zero (Nat.ne_of_gt valid.year_pos)
    rw [isNext]
    rfl
  rw [number, year]
  omega

theorem month_le (valid : date.IsValid) : date.month ≤ 12 := by
  by_contra beyond
  have noDays : (monthLengths date.year).getD (date.month - 1) 0 = 0 := by
    apply List.getD_eq_default
    simp only [monthLengths, List.length_cons, List.length_nil]
    omega
  have day := valid.day_le
  have positive := valid.day_pos
  omega

theorem day_le_31 (valid : date.IsValid) : date.day ≤ 31 := by
  have short : ∀ length ∈ monthLengths date.year, length ≤ 31 := by
    unfold monthLengths
    split <;> decide
  have inside : date.month - 1 < (monthLengths date.year).length := by
    have month := valid.month_le
    simp only [monthLengths, List.length_cons, List.length_nil]
    omega
  have day := valid.day_le
  rw [List.getD_eq_getElem _ _ inside] at day
  exact day.trans (short _ (List.getElem_mem inside))

end IsValid

/-! ### The order of dates -/

/-- A date comes before another one by the year, or else by the month, or else by the day. -/
inductive Before (earlier later : Date) : Prop
  | year : earlier.year < later.year → Before earlier later
  | month : earlier.year = later.year → earlier.month < later.month → Before earlier later
  | day : earlier.year = later.year → earlier.month = later.month → earlier.day < later.day →
      Before earlier later

/-- Of two dates one is before the other, or they are the same. -/
theorem before_or_eq_or_before (left right : Date) :
    left.Before right ∨ left = right ∨ right.Before left := by
  rcases Nat.lt_trichotomy left.year right.year with less | year | more
  · exact Or.inl (Before.year less)
  · rcases Nat.lt_trichotomy left.month right.month with less | month | more
    · exact Or.inl (Before.month year less)
    · rcases Nat.lt_trichotomy left.day right.day with less | day | more
      · exact Or.inl (Before.day year month less)
      · refine Or.inr (Or.inl ?_)
        cases left
        cases right
        simp_all only
      · exact Or.inr (Or.inr (Before.day year.symm month.symm more))
    · exact Or.inr (Or.inr (Before.month year.symm more))
  · exact Or.inr (Or.inr (Before.year more))

/-- Dates are numbered in their order. -/
theorem Before.number_lt {earlier later : Date} (valid : earlier.IsValid)
    (before : earlier.Before later) : earlier.number < later.number := by
  cases before with
  | year less =>
      calc
        earlier.number < daysOfYears earlier.year := valid.number_lt
        _ ≤ daysOfYears (later.year - 1) := daysOfYears_mono (by omega)
        _ ≤ later.number := by
          rw [number, Nat.add_assoc]
          exact Nat.le_add_right ..
  | month sameYear less =>
      have days := valid.days_lt
      have months := daysOfMonths_mono earlier.year (show earlier.month ≤ later.month - 1 by omega)
      rw [number, number, ← sameYear]
      omega
  | day sameYear sameMonth less =>
      have positive := valid.day_pos
      rw [number, number, ← sameYear, ← sameMonth]
      omega

/-- Valid dates are in the order of their numbers. -/
theorem before_iff_number_lt {left right : Date} (leftValid : left.IsValid)
    (rightValid : right.IsValid) : left.Before right ↔ left.number < right.number := by
  refine ⟨Before.number_lt leftValid, ?_⟩
  intro less
  rcases before_or_eq_or_before left right with before | rfl | after
  · exact before
  · exact absurd less (Nat.lt_irrefl _)
  · exact absurd less (Nat.lt_asymm (after.number_lt rightValid))

/-! ### Dates from their numbers -/

/-- The month is the one that the days lead into, and the day counts from its first one. -/
theorem exists_inMonths {lengths : List Nat} {days : Nat} (inside : days < lengths.sum)
    (month : Nat) :
    ∃ index rest, inMonths month lengths days = (month + index, rest + 1) ∧
      (lengths.take index).sum + rest = days ∧ rest < lengths.getD index 0 := by
  induction lengths generalizing month days with
  | nil => exact absurd inside (Nat.not_lt_zero days)
  | cons length lengths ih =>
      by_cases here : days < length
      · exact ⟨0, days, by rw [inMonths, if_pos here]; rfl, by simp, by simpa using here⟩
      · rw [List.sum_cons] at inside
        have further : days - length < lengths.sum := by omega
        rcases ih further (month + 1) with ⟨index, rest, found, together, within⟩
        refine ⟨index + 1, rest, ?_, ?_, ?_⟩
        · rw [inMonths, if_neg here, found, Nat.add_assoc, Nat.add_comm 1 index]
        · rw [List.take_succ_cons, List.sum_cons]
          omega
        · rwa [List.getD_cons_succ]

section Cycles

variable {centuries fourYears years : Nat}

/-- The days of years that are counted by whole cycles. -/
theorem daysOfYears_cycles (fourCenturies : Nat) (few : centuries ≤ 3) (fewer : fourYears ≤ 24)
    (fewest : years ≤ 3) :
    daysOfYears (400 * fourCenturies + 100 * centuries + 4 * fourYears + years) =
      146097 * fourCenturies + 36524 * centuries + 1461 * fourYears + 365 * years := by
  rw [daysOfYears_eq]
  omega

/-- A year is a leap year if it ends a cycle of 4 years, unless it also ends a century that does not
end a cycle of 400 years. -/
theorem isLeap_cycles (fourCenturies : Nat) (few : centuries ≤ 3) (fewer : fourYears ≤ 24)
    (fewest : years ≤ 3) :
    isLeap (400 * fourCenturies + 100 * centuries + 4 * fourYears + years + 1) = true ↔
      years = 3 ∧ (fourYears = 24 → centuries = 3) := by
  simp only [isLeap, decide_eq_true_eq]
  omega

end Cycles

/-- The year is the one that the days lead into, and the rest of them lie in it. -/
theorem exists_ofDays (days : Nat) :
    ∃ years rest, daysOfYears years + rest = days ∧ rest < (monthLengths (years + 1)).sum ∧
      ofDays days = ⟨years + 1, (inMonths 1 (monthLengths (years + 1)) rest).1,
        (inMonths 1 (monthLengths (years + 1)) rest).2⟩ := by
  -- The whole centuries, cycles of 4 years and years behind the whole cycles of 400 years.
  have few : min (days % 146097 / 36524) 3 ≤ 3 := Nat.min_le_right ..
  have fewer : (days % 146097 - min (days % 146097 / 36524) 3 * 36524) / 1461 ≤ 24 := by omega
  have fewest : min ((days % 146097 - min (days % 146097 / 36524) 3 * 36524) % 1461 / 365) 3 ≤ 3 :=
    Nat.min_le_right ..
  refine ⟨_, _, ?_, ?_, rfl⟩
  · rw [daysOfYears_cycles _ few fewer fewest]
    omega
  · simp only [sum_monthLengths, isLeap_cycles _ few fewer fewest]
    split <;> omega

theorem isValid_ofDays (days : Nat) : (ofDays days).IsValid := by
  rcases exists_ofDays days with ⟨years, rest, -, inside, isDate⟩
  rcases exists_inMonths inside 1 with ⟨index, day, found, -, within⟩
  rw [isDate, found]
  refine ⟨Nat.succ_pos years, Nat.lt_add_right index Nat.one_pos, Nat.succ_pos day, ?_⟩
  rw [Nat.add_sub_cancel_left]
  exact within

/-- The date that is computed from a number has this number. -/
theorem number_ofDays (days : Nat) : (ofDays days).number = days := by
  rcases exists_ofDays days with ⟨years, rest, together, inside, isDate⟩
  rcases exists_inMonths inside 1 with ⟨index, day, found, inYear, -⟩
  rw [isDate, found, number, daysOfMonths, Nat.add_sub_cancel, Nat.add_sub_cancel_left,
    Nat.add_sub_cancel, Nat.add_assoc, inYear, together]

/-- Later days have later dates. -/
theorem ofDays_before {earlier later : Nat} (less : earlier < later) :
    (ofDays earlier).Before (ofDays later) := by
  rw [before_iff_number_lt (isValid_ofDays earlier) (isValid_ofDays later), number_ofDays,
    number_ofDays]
  exact less

/-- The days of the first years have dates in these years. -/
theorem year_ofDays_le {days years : Nat} (within : days < daysOfYears years) :
    (ofDays days).year ≤ years := by
  by_contra beyond
  have started : daysOfYears years ≤ (ofDays days).number := by
    rw [number, Nat.add_assoc]
    exact (daysOfYears_mono (by omega)).trans (Nat.le_add_right ..)
  rw [number_ofDays] at started
  omega

end BuildSteps.Date
