import BuildSteps.Proofs.Text.IntegerStages

/-!
# Which texts are read as integers

The stages of the reader, put together, make decimal digits of the texts of the grammar and of no
others. Signs are read around them: one in front of the padding, which the trimmed text starts with,
and a late one behind it. `readInteger_eq_ok_iff` says so for every text that is not too long.
-/

namespace BuildSteps.Text

/-! ### Plain forms -/

section Plain

variable {text plain : List Char} {number : Nat}

/-- The plain form of a text behind a sign. -/
def plainDigits (text : List Char) : Option (List Char) :=
  (withoutPadding text).map fun digits => withoutUnderscores (withoutFraction digits)

theorem length_le_of_plainDigits (reduced : plainDigits text = some plain) :
    plain.length ≤ text.length := by
  rcases Option.map_eq_some_iff.mp reduced with ⟨stripped, unpadded, rfl⟩
  rcases exists_padding unpadded with ⟨padding, rfl, -⟩
  have noLonger := length_withoutUnderscores_le (withoutFraction stripped)
  have noLongerWhole := length_withoutFraction_le stripped
  rw [List.length_append]
  omega

/-- A text has the digits of a number as its plain form iff it is padded. -/
theorem plainDigits_eq_digits_iff :
    plainDigits text = some (Nat.toDigits 10 number) ↔ IsPadded text number := by
  have digital := Json.all_isDigit_toDigits number
  rw [isPadded_iff]
  constructor
  · intro reduced
    rcases Option.map_eq_some_iff.mp reduced with ⟨stripped, unpadded, plain⟩
    rcases exists_padding unpadded with ⟨padding, rfl, padded, -⟩
    rcases exists_fraction stripped with ⟨fraction, whole, empty⟩
    rw [withoutUnderscores_eq_digits_iff Nat.toDigits_ne_nil digital] at plain
    exact ⟨padding, _, fraction, congrArg _ whole, padded, plain, empty⟩
  · rintro ⟨padding, body, fraction, rfl, padded, grouped, empty⟩
    have starts := (isPadded_iff.mpr
      ⟨padding, body, fraction, rfl, padded, grouped, empty⟩).exists_first
    rw [plainDigits, withoutPadding_append padded.2 (unpad_grouped grouped empty) starts,
      Option.map_some, withoutFraction_append grouped.not_mem_point empty,
      (withoutUnderscores_eq_digits_iff Nat.toDigits_ne_nil digital).mpr grouped]

/-- A minus sign that is there without underscores was there before. -/
theorem exists_behind_minus {digits : List Char} (same : withoutUnderscores text = '-' :: digits) :
    ∃ rest, text = '-' :: rest := by
  rcases withoutUnderscores_cases text with ⟨isSeparate, filtered⟩ | ⟨-, unchanged⟩
  · cases text with
    | nil => cases same
    | cons first rest =>
        have other : first ≠ '_' := by simpa using isSeparate.1
        rw [filtered, List.filter_cons_of_pos (by simpa using other)] at same
        cases same
        exact ⟨rest, rfl⟩
  · exact ⟨digits, unchanged ▸ same⟩

/-- A text has a minus sign and digits as its plain form iff its minus sign is late. -/
theorem plainDigits_eq_minus_iff :
    plainDigits text = some ('-' :: Nat.toDigits 10 number) ↔ HasLateMinus text number := by
  have digital := Json.all_isDigit_toDigits number
  constructor
  · intro reduced
    rcases Option.map_eq_some_iff.mp reduced with ⟨stripped, unpadded, plain⟩
    rcases exists_padding unpadded with ⟨padding, rfl, padded, late⟩
    rcases exists_fraction stripped with ⟨fraction, whole, empty⟩
    rcases exists_behind_minus plain with ⟨rest, minus⟩
    rw [minus] at plain whole
    rw [withoutUnderscores_minus_eq_iff Nat.toDigits_ne_nil digital] at plain
    rcases plain with ⟨gap, body, rfl, gapped, grouped⟩
    subst whole
    exact ⟨padding, gap, body, fraction, by simp, padded, late (by simp), gapped, grouped, empty⟩
  · rintro ⟨padding, gap, body, fraction, rfl, padded, nonempty, gapped, grouped, empty⟩
    have noPoint : '.' ∉ '-' :: (gap ++ body) := by
      have absent := grouped.not_mem_point
      rcases gapped with rfl | rfl <;> simpa using absent
    rcases padded.exists_zero nonempty with ⟨zeros, rfl⟩
    have starts : ∃ first rest, '0' :: zeros ++ '-' :: (gap ++ (body ++ fraction)) = first :: rest ∧
        first.isDigit = true := ⟨'0', _, rfl, by decide⟩
    have whole : '-' :: (gap ++ (body ++ fraction)) = '-' :: (gap ++ body) ++ fraction := by simp
    rw [plainDigits, withoutPadding_append padded.2 (unpad_minus _) starts, Option.map_some, whole,
      withoutFraction_append noPoint empty,
      (withoutUnderscores_minus_eq_iff Nat.toDigits_ne_nil digital).mpr
        ⟨gap, body, rfl, gapped, grouped⟩]

end Plain

/-! ### Integers -/

section Integers

variable {text plain : List Char} {number : Int}

theorem splitSign_of_ne (noMinus : ∀ rest, text ≠ '-' :: rest) :
    splitSign text = (false, text) := by
  unfold splitSign
  split
  · exact absurd rfl (noMinus _)
  · rfl

theorem readPlain?_eq (text : List Char) :
    readPlain? text = (readDigits? (splitSign text).2).map fun magnitude : Nat =>
      if (splitSign text).1 then -(magnitude : Int) else magnitude := by
  cases digits : readDigits? (splitSign text).2 <;> simp [readPlain?, digits]

theorem readPlain?_minus_eq_some_iff (short : plain.length ≤ digitLimit) :
    readPlain? ('-' :: plain) = some number ↔
      ∃ magnitude : Nat, plain = Nat.toDigits 10 magnitude ∧ number = -magnitude := by
  rw [readPlain?_eq]
  simp [splitSign, readDigits?_eq_some_iff short, @eq_comm Int number]

/-- A plain form is read iff it is the digits of a number, with a minus sign or none. -/
theorem readPlain?_eq_some_iff (short : plain.length ≤ digitLimit) :
    readPlain? plain = some number ↔
      (∃ magnitude : Nat, plain = Nat.toDigits 10 magnitude ∧ number = magnitude) ∨
        ∃ magnitude : Nat, plain = '-' :: Nat.toDigits 10 magnitude ∧ number = -magnitude := by
  have noMinus : ∀ magnitude rest, Nat.toDigits 10 magnitude ≠ '-' :: rest := by
    intro magnitude rest same
    have digital := Json.all_isDigit_toDigits magnitude
    rw [same] at digital
    exact absurd (digital '-' (List.mem_cons_self ..)) (by decide)
  by_cases minus : ∃ rest, plain = '-' :: rest
  · rcases minus with ⟨rest, rfl⟩
    rw [List.length_cons] at short
    rw [readPlain?_minus_eq_some_iff (by omega)]
    simp only [List.cons.injEq, true_and, (noMinus _ _).symm, false_and, exists_false, false_or]
  · rw [not_exists] at minus
    rw [readPlain?_eq]
    simp [splitSign_of_ne minus, readDigits?_eq_some_iff short, minus, @eq_comm Int number]

/-- A text without a sign in front is read iff it is padded or has a late minus sign. -/
theorem readUnsigned_eq_some_iff (short : text.length ≤ digitLimit) :
    (plainDigits text).bind readPlain? = some number ↔
      (∃ magnitude : Nat, IsPadded text magnitude ∧ number = magnitude) ∨
        ∃ magnitude : Nat, HasLateMinus text magnitude ∧ number = -magnitude := by
  simp only [Option.bind_eq_some_iff, ← plainDigits_eq_digits_iff, ← plainDigits_eq_minus_iff]
  constructor
  · rintro ⟨plain, reduced, read⟩
    have shorter := length_le_of_plainDigits reduced
    rw [readPlain?_eq_some_iff (by omega)] at read
    rw [reduced]
    simpa using read
  · intro forms
    rcases forms with ⟨magnitude, reduced, same⟩ | ⟨magnitude, reduced, same⟩
    · have shorter := length_le_of_plainDigits reduced
      refine ⟨_, reduced, ?_⟩
      rw [readPlain?_eq_some_iff (by omega)]
      exact Or.inl ⟨magnitude, rfl, same⟩
    · have shorter := length_le_of_plainDigits reduced
      refine ⟨_, reduced, ?_⟩
      rw [readPlain?_eq_some_iff (by omega)]
      exact Or.inr ⟨magnitude, rfl, same⟩

/-- A text behind a minus sign is read iff it is padded, so a second sign is refused. -/
theorem readBehindMinus_eq_some_iff (short : text.length ≤ digitLimit) :
    ((plainDigits text).map ('-' :: ·)).bind readPlain? = some number ↔
      ∃ magnitude : Nat, IsPadded text magnitude ∧ number = -magnitude := by
  simp only [← plainDigits_eq_digits_iff, Option.bind_eq_some_iff, Option.map_eq_some_iff]
  constructor
  · rintro ⟨_, ⟨plain, reduced, rfl⟩, read⟩
    have shorter := length_le_of_plainDigits reduced
    rw [readPlain?_minus_eq_some_iff (by omega)] at read
    rcases read with ⟨magnitude, rfl, same⟩
    exact ⟨magnitude, reduced, same⟩
  · rintro ⟨magnitude, reduced, same⟩
    have shorter := length_le_of_plainDigits reduced
    refine ⟨_, ⟨_, reduced, rfl⟩, ?_⟩
    rw [readPlain?_minus_eq_some_iff (by omega)]
    exact ⟨magnitude, rfl, same⟩

/-- What is read from a trimmed text. -/
theorem readTrimmed_eq_some_iff (short : (trim isWhiteSpace text).length ≤ digitLimit) :
    (plainInteger text).bind readPlain? = some number ↔
      IsSigned IsPadded (trim isWhiteSpace text) number ∨
        IsSignedLate (trim isWhiteSpace text) number := by
  rw [plainInteger]
  generalize trim isWhiteSpace text = word at short
  by_cases plus : ∃ rest, word = '+' :: rest
  · rcases plus with ⟨rest, rfl⟩
    rw [List.length_cons] at short
    rw [isSigned_plus_iff, isSignedLate_plus_iff, ← readUnsigned_eq_some_iff (by omega)]
    by_cases minus : ∃ more, rest = '-' :: more
    · rcases minus with ⟨more, rfl⟩
      simp [withoutPlus, plainDigits, withoutPadding, isLeadingDigit]
    · rw [not_exists] at minus
      simp only [withoutPlus, splitSign_of_ne minus]
      rfl
  · rw [not_exists] at plus
    have same : withoutPlus word = some word := by
      unfold withoutPlus
      split
      · exact absurd rfl (plus _)
      · exact absurd rfl (plus _)
      · rfl
    by_cases minus : ∃ rest, word = '-' :: rest
    · rcases minus with ⟨rest, rfl⟩
      rw [List.length_cons] at short
      simp only [same, isSigned_minus_iff, not_isSignedLate_minus, or_false,
        ← readBehindMinus_eq_some_iff (show rest.length ≤ digitLimit by omega), splitSign,
        plainDigits, Option.map_map]
      rfl
    · rw [not_exists] at minus
      rw [isSigned_bare_iff plus minus, isSignedLate_bare_iff plus,
        ← readUnsigned_eq_some_iff short]
      simp only [same, splitSign_of_ne minus]
      rfl

/-- A text in the limit of digits is not overlong. -/
theorem isOverlong_eq_false (short : text.length ≤ digitLimit) : isOverlong text = false := by
  have unsigned : (splitSign text).2.length ≤ text.length := by
    unfold splitSign
    split <;> simp
  have leading : ∀ digits : List Char, (leadingDigits digits).length ≤ digits.length := by
    intro digits
    cases digits with
    | nil => exact Nat.le_refl 0
    | cons first rest =>
        have front := (List.takeWhile_prefix Char.isDigit (l := rest)).length_le
        simp only [leadingDigits]
        split <;> simp [front]
  have noLonger := leading (splitSign text).2
  rw [isOverlong, decide_eq_false_iff_not]
  omega

theorem trim_of_standsIn {word : List Char} (inside : ∀ char ∈ word, IsIntegerChar char)
    (standing : StandsIn isWhiteSpace word text) : trim isWhiteSpace text = word := by
  refine trim_eq_iff.mpr ⟨isBare_of_forall ?_, standing⟩
  intro char occurs
  exact not_isWhiteSpace_of_isIntegerChar (inside char occurs)

/-- Without blanks around it, a sign and a point, a text in which an integer is written groups
digits. -/
theorem IsWrittenIn.exists_isGrouped (written : IsWrittenIn (IsSigned IsRegular) text number)
    (trimmed : trim isWhiteSpace text = text) (noPlus : ∀ rest, text ≠ '+' :: rest)
    (noMinus : ∀ rest, text ≠ '-' :: rest) (noPoint : '.' ∉ text) :
    ∃ digits, IsGrouped text digits := by
  rcases written with ⟨word, standing, signed⟩
  have whole := trim_of_standsIn signed.isPadded.isIntegerChar standing
  rw [trimmed] at whole
  subst whole
  rcases (isSigned_bare_iff noPlus noMinus).mp signed with ⟨magnitude, regular, -⟩
  exact regular.isGrouped noPoint

/-- What is read from a text of at most 4300 characters is the integer that is written in it. -/
theorem readInteger_eq_ok_iff (short : text.length ≤ digitLimit) :
    readInteger text = .ok number ↔
      IsWrittenIn (IsSigned IsPadded) text number ∨ IsWrittenIn IsSignedLate text number := by
  have shorter : (trim isWhiteSpace text).length ≤ digitLimit :=
    Nat.le_trans (length_trim_le text) short
  have trimmed := @readTrimmed_eq_some_iff text number shorter
  rw [readInteger, isOverlong_eq_false short, if_neg Bool.false_ne_true]
  constructor
  · intro read
    split at read
    · rename_i found
      cases read
      rcases trimmed.mp found with signed | late
      · exact Or.inl ⟨_, standsIn_trim text, signed⟩
      · exact Or.inr ⟨_, standsIn_trim text, late⟩
    · cases read
  · rintro (⟨word, standing, signed⟩ | ⟨word, standing, late⟩)
    · rw [trim_of_standsIn signed.isIntegerChar standing] at trimmed
      rw [trimmed.mpr (Or.inl signed)]
    · rw [trim_of_standsIn late.isIntegerChar standing] at trimmed
      rw [trimmed.mpr (Or.inr late)]

/-- A text in the limit that has none of the forms is unreadable. -/
theorem readInteger_of_unwritten (short : text.length ≤ digitLimit)
    (unwritten : ∀ number, ¬ IsWrittenIn (IsSigned IsPadded) text number ∧
      ¬ IsWrittenIn IsSignedLate text number) : readInteger text = .error .unreadable := by
  have unread : ∀ number, readInteger text ≠ .ok number := by
    intro number read
    exact not_or.mpr (unwritten number) ((readInteger_eq_ok_iff short).mp read)
  revert unread
  rw [readInteger, isOverlong_eq_false short, if_neg Bool.false_ne_true]
  intro unread
  split
  · rename_i number found
    simp [found] at unread
  · rfl

end Integers

end BuildSteps.Text
