import Mathlib.Data.String.Basic
import Mathlib.Order.Monotone.Basic
import BuildSteps.Proofs.Timestamp.Calendar

/-!
# Timestamps in the order of time

A timestamp is made of numerals of fixed widths, with marks between them, from the year down to the
fraction of a second. Texts are compared at the first character in which they differ. So of two
numerals of the same width the smaller number comes first, whatever stands behind them, and two
timestamps are compared at the first field in which they differ, like the dates and times of day
themselves. Where one of them has a fraction and the other has none, the mark of the offset is
compared with the point, and comes first, as the whole second does.

The fields have room for their numbers as long as the year has four digits: an instant is dated if
it lies within the years 1 to 9999.
-/

namespace BuildSteps.Timestamp

/-! ### Numerals of a fixed width -/

/-- A difference between texts of one length decides, whatever stands behind them. -/
theorem append_lt_append_of_lt {left right : List Char} (same : left.length = right.length)
    (less : left < right) (leftRest rightRest : List Char) :
    left ++ leftRest < right ++ rightRest := by
  induction less with
  | nil => cases same
  | rel smaller => exact List.Lex.rel smaller
  | cons _ ih => exact List.Lex.cons (ih (Nat.succ.inj same))

theorem digitChar_lt_digitChar {left right : Nat} (small : right < 10) (less : left < right) :
    left.digitChar < right.digitChar := by
  have each : ∀ right < 10, ∀ left < right, left.digitChar < right.digitChar := by decide
  exact each right small left less

theorem padded_succ_of_lt_ten (zeros : Nat) {digit : Nat} (small : digit < 10) :
    padded (zeros + 1) digit = List.replicate zeros '0' ++ [digit.digitChar] := by
  rw [padded, Decimal.padLeft, Decimal.digitsOf, Nat.toDigits_of_lt_base small,
    List.length_singleton, Nat.add_sub_cancel]

/-- The last digit of a numeral stands behind the numeral of a tenth of the number. -/
theorem padded_succ_succ (width number : Nat) :
    padded (width + 2) number = padded (width + 1) (number / 10) ++ [(number % 10).digitChar] := by
  by_cases small : number < 10
  · rw [padded_succ_of_lt_ten (width + 1) small, Nat.div_eq_of_lt small, Nat.mod_eq_of_lt small,
      padded_succ_of_lt_ten width (Nat.zero_lt_succ 9), List.replicate_succ']
    rfl
  · have digits : Nat.toDigits 10 number =
        Nat.toDigits 10 (number / 10) ++ [(number % 10).digitChar] :=
      Nat.toDigits_of_base_le (by omega) (by omega)
    have zeros : ∀ length, width + 2 - (length + 1) = width + 1 - length := by omega
    rw [padded, padded, Decimal.padLeft, Decimal.padLeft, Decimal.digitsOf, Decimal.digitsOf,
      digits, List.length_append, List.length_singleton, zeros, List.append_assoc]

theorem length_padded {width number : Nat} (bound : number < 10 ^ (width + 1)) :
    (padded (width + 1) number).length = width + 1 := by
  have short : (Nat.toDigits 10 number).length ≤ width + 1 :=
    (Nat.length_toDigits_le_iff (by omega) (Nat.succ_pos width)).mpr bound
  rw [padded, Decimal.padLeft, Decimal.digitsOf, List.length_append, List.length_replicate,
    Nat.sub_add_cancel short]

/-- Numerals of one width are in the order of their numbers. -/
theorem padded_lt_padded {width left right : Nat} (bound : right < 10 ^ (width + 1))
    (less : left < right) : padded (width + 1) left < padded (width + 1) right := by
  -- All digits but the last one are the numeral of the tenths, which decide unless they are equal.
  induction width generalizing left right with
  | zero =>
      rw [padded_succ_of_lt_ten 0 (less.trans bound), padded_succ_of_lt_ten 0 bound]
      exact List.Lex.rel (digitChar_lt_digitChar bound less)
  | succ width ih =>
      have shorter : right / 10 < 10 ^ (width + 1) :=
        Nat.div_lt_of_lt_mul (by rwa [Nat.pow_succ, Nat.mul_comm] at bound)
      rw [padded_succ_succ, padded_succ_succ]
      rcases Nat.lt_or_eq_of_le (Nat.div_le_div_right less.le : left / 10 ≤ right / 10) with
        tenths | tenths
      · have same : (padded (width + 1) (left / 10)).length =
            (padded (width + 1) (right / 10)).length := by
          rw [length_padded (tenths.trans shorter), length_padded shorter]
        exact append_lt_append_of_lt same (ih shorter tenths) _ _
      · rw [tenths]
        refine List.append_left_lt (List.Lex.rel (digitChar_lt_digitChar ?_ ?_)) <;> omega

/-- A difference between numbers decides, whatever stands behind their numerals. -/
theorem padded_append_lt {width left right : Nat} (bound : right < 10 ^ (width + 1))
    (less : left < right) (leftRest rightRest : List Char) :
    padded (width + 1) left ++ leftRest < padded (width + 1) right ++ rightRest := by
  have same : (padded (width + 1) left).length = (padded (width + 1) right).length := by
    rw [length_padded (less.trans bound), length_padded bound]
  exact append_lt_append_of_lt same (padded_lt_padded bound less) _ _

/-! ### Dates and times of day -/

/-- Dates with four digits for the year are in the order of their texts, whatever follows these.
-/
theorem dateText_append_lt {earlier later : Date} (before : earlier.Before later)
    (valid : later.IsValid) (fourDigits : later.year < 10000) (earlierRest laterRest : List Char) :
    dateText earlier ++ earlierRest < dateText later ++ laterRest := by
  have month := valid.month_le
  have day := valid.day_le_31
  simp only [dateText, List.append_assoc, List.cons_append]
  cases before with
  | year less => exact padded_append_lt fourDigits less _ _
  | month sameYear less =>
      rw [sameYear]
      exact List.append_left_lt (List.Lex.cons (padded_append_lt (by omega) less _ _))
  | day sameYear sameMonth less =>
      rw [sameYear, sameMonth]
      exact List.append_left_lt (List.Lex.cons (List.append_left_lt
        (List.Lex.cons (padded_append_lt (by omega) less _ _))))

/-- Fractions of a second are in the order of time, with the offset behind them. -/
theorem fraction_append_lt {earlier later : Nat} (bound : later < 1000000) (less : earlier < later)
    (rest : List Char) :
    (if earlier = 0 then [] else '.' :: padded 6 earlier) ++ '+' :: rest <
      (if later = 0 then [] else '.' :: padded 6 later) ++ '+' :: rest := by
  rw [if_neg (Nat.ne_zero_of_lt less)]
  -- Without a fraction, the mark of the offset is compared with the point.
  split
  · exact List.Lex.rel (by decide)
  · exact List.Lex.cons (padded_append_lt bound less _ _)

/-- Times of day are in the order of time, with the offset behind them. -/
theorem clockText_append_lt {earlier later : Nat} (within : later < 86400000000)
    (less : earlier < later) (rest : List Char) :
    clockText earlier ++ '+' :: rest < clockText later ++ '+' :: rest := by
  simp only [clockText, List.append_assoc, List.cons_append]
  by_cases hours : earlier / 1000000 / 3600 = later / 1000000 / 3600
  · rw [hours]
    refine List.append_left_lt (List.Lex.cons ?_)
    by_cases minutes : earlier / 1000000 / 60 % 60 = later / 1000000 / 60 % 60
    · rw [minutes]
      refine List.append_left_lt (List.Lex.cons ?_)
      by_cases seconds : earlier / 1000000 % 60 = later / 1000000 % 60
      · rw [seconds]
        exact List.append_left_lt (fraction_append_lt (Nat.mod_lt _ (by omega)) (by omega) rest)
      · exact padded_append_lt (by omega) (by omega) _ _
    · exact padded_append_lt (by omega) (by omega) _ _
  · exact padded_append_lt (by omega) (by omega) _ _

/-! ### Instants -/

/-- The first instant of a year. -/
def startOfYear (year : Nat) : Int :=
  (Date.daysOfYears (year - 1) - daysToEpoch) * dayLength

/-- An instant is dated if it lies within the years 1 to 9999. -/
def IsDated (instant : Int) : Prop :=
  startOfYear 1 ≤ instant ∧ instant < startOfYear 10000

theorem isDated_iff {instant : Int} :
    IsDated instant ↔ -62135596800000000 ≤ instant ∧ instant < 253402300800000000 := by
  rw [IsDated, startOfYear, startOfYear, Date.daysOfYears_eq, Date.daysOfYears_eq]
  exact Iff.rfl

/-- The text of an instant is that of its date, that of its time of day and the offset. -/
theorem toList_text (instant : Int) :
    (text instant).toList = dateText (Date.ofDays (instant / dayLength + daysToEpoch).toNat) ++
      'T' :: (clockText (instant % dayLength).toNat ++ '+' :: ['0', '0', ':', '0', '0']) := by
  have offset : "+00:00".toList = '+' :: ['0', '0', ':', '0', '0'] := by decide
  rw [text, String.toList_ofList, offset, List.append_assoc, List.cons_append]

theorem dateText_ofDays_append_lt {earlier later : Nat} (less : earlier < later)
    (within : later < Date.daysOfYears 9999) (earlierRest laterRest : List Char) :
    dateText (Date.ofDays earlier) ++ earlierRest < dateText (Date.ofDays later) ++ laterRest := by
  have year := Date.year_ofDays_le within
  exact dateText_append_lt (Date.ofDays_before less) (Date.isValid_ofDays later) (by omega) _ _

/-- Dated instants have texts in the order of time. -/
theorem text_lt_text_of_lt {earlier later : Int} (first : IsDated earlier) (last : IsDated later)
    (less : earlier < later) : text earlier < text later := by
  rcases first with ⟨started, -⟩
  rcases last with ⟨-, notOver⟩
  simp only [startOfYear, Nat.reduceSub, daysToEpoch, dayLength] at started notOver
  rw [String.lt_iff_toList_lt, toList_text, toList_text]
  simp only [daysToEpoch, dayLength]
  -- On one day the times of day decide, and otherwise the dates.
  by_cases sameDay : earlier / 86400000000 = later / 86400000000
  · rw [sameDay]
    exact List.append_left_lt (List.Lex.cons (clockText_append_lt (by omega) (by omega) _))
  · exact dateText_ofDays_append_lt (by omega) (by omega) _ _

section Dated

variable {left right : Int}

theorem text_lt_text_iff (leftDated : IsDated left) (rightDated : IsDated right) :
    text left < text right ↔ left < right := by
  have increasing : StrictMonoOn text {instant | IsDated instant} :=
    fun _ first _ last less => text_lt_text_of_lt first last less
  exact increasing.lt_iff_lt leftDated rightDated

theorem text_le_text_iff (leftDated : IsDated left) (rightDated : IsDated right) :
    text left ≤ text right ↔ left ≤ right := by
  rw [← not_lt, text_lt_text_iff rightDated leftDated, not_lt]

theorem text_eq_text_iff (leftDated : IsDated left) (rightDated : IsDated right) :
    text left = text right ↔ left = right := by
  rw [le_antisymm_iff, text_le_text_iff leftDated rightDated,
    text_le_text_iff rightDated leftDated, ← le_antisymm_iff]

end Dated

end BuildSteps.Timestamp
