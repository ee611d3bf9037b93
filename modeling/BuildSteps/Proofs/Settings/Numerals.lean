import BuildSteps.Proofs.Json.Lexemes
import BuildSteps.Text.Integer

/-!
# Decimal texts of positive integers

The reader of integers brings a text into a plain form first. The decimal text of a positive integer
is in plain form already, so each of the stages leaves it as it is, and the digits stand for the
integer that was written. Only the number of digits can stand against it.
-/

namespace BuildSteps.Text

/-- A numeral has digits only, of which the first is not a zero. -/
structure IsNumeral (digits : List Char) : Prop where
  digital : ∀ digit ∈ digits, digit.isDigit = true
  leading : ∃ first rest, digits = first :: rest ∧ first ≠ '0'

section Stages

variable {digits : List Char}

theorem not_isWhiteSpace_of_isDigit {char : Char} (digit : char.isDigit = true) :
    isWhiteSpace char = false := by
  have bounds := Json.toNat_of_isDigit digit
  simp [isWhiteSpace, inRanges, whiteSpaceRanges]
  omega

theorem dropWhile_of_digital (digital : ∀ digit ∈ digits, digit.isDigit = true) :
    digits.dropWhile isWhiteSpace = digits := by
  cases digits with
  | nil => rfl
  | cons first rest =>
      have visible := not_isWhiteSpace_of_isDigit (digital first (List.mem_cons_self ..))
      rw [List.dropWhile_cons, visible]
      rfl

theorem trim_of_digital (digital : ∀ digit ∈ digits, digit.isDigit = true) :
    trim isWhiteSpace digits = digits := by
  have backwards : ∀ digit ∈ digits.reverse, digit.isDigit = true := by
    intro digit occurs
    exact digital digit (List.mem_reverse.mp occurs)
  rw [trim, dropWhile_of_digital digital, trimEnd, dropWhile_of_digital backwards,
    List.reverse_reverse]

theorem not_mem_of_digital (digital : ∀ digit ∈ digits, digit.isDigit = true) {char : Char}
    (other : char.isDigit = false) : char ∉ digits := by
  intro occurs
  rw [digital char occurs] at other
  cases other

theorem splitSign_of_numeral (numeral : IsNumeral digits) : splitSign digits = (false, digits) :=
  Json.splitSign_withSign numeral.digital false

theorem leadingDigits_of_numeral (numeral : IsNumeral digits) :
    leadingDigits digits = digits := by
  rcases numeral with ⟨digital, first, rest, rfl, nonzero⟩
  have whole : (rest ++ []).takeWhile Char.isDigit = rest ++ [].takeWhile Char.isDigit :=
    List.takeWhile_append_of_pos fun digit occurs => digital digit (List.mem_cons_of_mem _ occurs)
  simp only [List.append_nil, List.takeWhile_nil] at whole
  simp [leadingDigits, isLeadingDigit, digital first (List.mem_cons_self ..), nonzero, whole]

theorem withoutPlus_of_numeral (numeral : IsNumeral digits) :
    withoutPlus digits = some digits := by
  have noPlus := not_mem_of_digital numeral.digital (show '+'.isDigit = false by decide)
  unfold withoutPlus
  split
  · simp at noPlus
  · simp at noPlus
  · rfl

theorem withoutPadding_of_numeral (numeral : IsNumeral digits) :
    withoutPadding digits = some digits := by
  rcases numeral with ⟨digital, first, rest, rfl, nonzero⟩
  simp [withoutPadding, isLeadingDigit, digital first (List.mem_cons_self ..), nonzero]

theorem withoutFraction_of_numeral (numeral : IsNumeral digits) :
    withoutFraction digits = digits := by
  have noPoint := not_mem_of_digital numeral.digital (show '.'.isDigit = false by decide)
  have nothing : (digits ++ []).dropWhile (· ≠ '.') = [].dropWhile (· ≠ '.') := by
    apply List.dropWhile_append_of_pos
    intro digit occurs
    rw [decide_eq_true_eq]
    rintro rfl
    exact noPoint occurs
  rw [List.append_nil] at nothing
  rw [withoutFraction, nothing]
  rfl

theorem withoutUnderscores_of_numeral (numeral : IsNumeral digits) :
    withoutUnderscores digits = digits := by
  have noUnderscore := not_mem_of_digital numeral.digital (show '_'.isDigit = false by decide)
  unfold withoutUnderscores
  split
  · rfl
  · rw [List.filter_eq_self]
    intro digit occurs
    rw [decide_eq_true_eq]
    rintro rfl
    exact noUnderscore occurs

/-- A numeral is in plain form. -/
theorem plainInteger_of_numeral (numeral : IsNumeral digits) :
    plainInteger digits = some digits := by
  simp only [plainInteger, trim_of_digital numeral.digital, withoutPlus_of_numeral numeral,
    splitSign_of_numeral numeral, withoutPadding_of_numeral numeral, Option.map_some,
    withoutFraction_of_numeral numeral, withoutUnderscores_of_numeral numeral]
  rfl

/-- A numeral in the limit of digits is read as its value. -/
theorem readInteger_of_numeral (numeral : IsNumeral digits) (short : digits.length ≤ digitLimit) :
    readInteger digits = .ok (digitsValue digits) := by
  have fits : isOverlong digits = false := by
    rw [isOverlong, splitSign_of_numeral numeral, leadingDigits_of_numeral numeral,
      decide_eq_false_iff_not]
    omega
  have read : readDigits? digits = some (digitsValue digits) := by
    have leading := leadingDigits_of_numeral numeral
    rcases numeral with ⟨digital, first, rest, rfl, nonzero⟩
    have noZero : first :: rest ≠ ['0'] := by
      rintro ⟨⟩
      exact nonzero rfl
    rw [readDigits?, if_neg noZero, if_pos ⟨List.cons_ne_nil _ _, leading, short⟩]
  simp only [readInteger, fits, Bool.false_eq_true, if_false, plainInteger_of_numeral numeral,
    Option.bind_some, readPlain?, splitSign_of_numeral numeral, read]
  rfl

end Stages

/-- The digits of a positive number are a numeral. -/
theorem isNumeral_toDigits {number : Nat} (positive : 0 < number) :
    IsNumeral (Nat.toDigits 10 number) := by
  refine ⟨Json.all_isDigit_toDigits number, ?_⟩
  rcases digits : Nat.toDigits 10 number with _ | ⟨first, rest⟩
  · exact absurd digits Nat.toDigits_ne_nil
  · have nonzero := Json.head?_toDigits positive
    rw [digits, List.head?_cons, ne_eq, Option.some.injEq] at nonzero
    exact ⟨first, rest, rfl, nonzero⟩

theorem digitsValue_toDigits (number : Nat) : digitsValue (Nat.toDigits 10 number) = number := by
  have value := @Nat.ofDigitChars_ten_toDigits number
  rw [Nat.ofDigitChars] at value
  rw [digitsValue, placeValue, List.foldl_map, value]

/-- The decimal text of a positive integer is read as that integer, if it is not too long. -/
theorem readInteger_toString {number : Int} (positive : 0 < number)
    (short : (toString number).length ≤ digitLimit) :
    readInteger (toString number).toList = .ok number := by
  have written : (toString number).toList = Nat.toDigits 10 number.natAbs := by
    rw [Json.toList_toString, decide_eq_false (by omega)]
    rfl
  rw [← String.length_toList, written] at short
  rw [written, readInteger_of_numeral (isNumeral_toDigits (by omega)) short, digitsValue_toDigits,
    Except.ok.injEq]
  omega

end BuildSteps.Text
