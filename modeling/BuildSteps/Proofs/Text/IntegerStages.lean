import BuildSteps.Proofs.Text.IntegerGrammar

/-!
# The stages of the reader of integers

The reader of integers brings a text into a plain form, stage by stage: it takes away padding, a
fraction and underscores, and reads the digits that are left. Each stage is described from both
sides here, by what it makes of the texts of the grammar, and by the texts of which it makes decimal
digits. A stage takes away nothing but what the grammar has at its place, so a text that is not of
the grammar keeps a character that no digit can be.
-/

namespace BuildSteps.Text

/-! ### Digits -/

section Digits

variable {text : List Char} {number : Nat}

theorem digitChar_of_isDigit {digit : Char} (isDigit : digit.isDigit = true) :
    Nat.digitChar (digit.toNat - '0'.toNat) = digit := by
  have bounds := Json.toNat_of_isDigit isDigit
  have zero : '0'.toNat = 48 := rfl
  rw [← Char.toNat_inj, Nat.toNat_digitChar_of_lt_ten (by omega)]
  omega

/-- Digits that are read behind a positive front come behind the digits of that front. -/
theorem toDigits_foldl {digits : List Char} (digital : ∀ digit ∈ digits, digit.isDigit = true)
    {front : Nat} (positive : 0 < front) :
    Nat.toDigits 10 ((digits.map fun digit => digit.toNat - '0'.toNat).foldl
      (fun value digit => 10 * value + digit) front) = Nat.toDigits 10 front ++ digits := by
  induction digits generalizing front with
  | nil => simp
  | cons digit rest ih =>
      rw [List.forall_mem_cons] at digital
      have bounds := Json.toNat_of_isDigit digital.1
      have zero : '0'.toNat = 48 := rfl
      have small : digit.toNat - '0'.toNat < 10 := by omega
      rw [List.map_cons, List.foldl_cons, ih digital.2 (by omega),
        ← Nat.toDigits_append_toDigits (by omega) positive small, Nat.toDigits_of_lt_base small,
        digitChar_of_isDigit digital.1, List.append_assoc, List.singleton_append]

/-- The digits of the value of a numeral are the numeral. -/
theorem toDigits_digitsValue (numeral : IsNumeral text) :
    Nat.toDigits 10 (digitsValue text) = text := by
  rcases numeral with ⟨digital, first, rest, rfl, nonzero⟩
  rw [List.forall_mem_cons] at digital
  have bounds := Json.toNat_of_isDigit digital.1
  have zero : '0'.toNat = 48 := rfl
  have notZero : first.toNat ≠ '0'.toNat := by
    intro same
    exact nonzero (Char.toNat_inj.mp same)
  have positive : 0 < first.toNat - '0'.toNat := by omega
  rw [digitsValue, placeValue, List.map_cons, List.foldl_cons, Nat.mul_zero, Nat.zero_add,
    toDigits_foldl digital.2 positive, Nat.toDigits_of_lt_base (by omega),
    digitChar_of_isDigit digital.1, List.singleton_append]

/-- A text that is all leading digits is a numeral. -/
theorem isNumeral_of_leadingDigits (nonempty : text ≠ []) (leading : leadingDigits text = text) :
    IsNumeral text := by
  cases text with
  | nil => exact absurd rfl nonempty
  | cons first rest =>
      simp only [leadingDigits] at leading
      split at leading
      · rename_i isLeading
        simp only [isLeadingDigit, Bool.and_eq_true, decide_eq_true_eq] at isLeading
        rw [List.cons.injEq, List.takeWhile_eq_self_iff] at leading
        refine ⟨?_, first, rest, rfl, isLeading.2⟩
        rw [List.forall_mem_cons]
        exact ⟨isLeading.1, leading.2⟩
      · cases leading

/-- Digits are read if they are the decimal digits of a number, which then is the one that is read.
-/
theorem readDigits?_eq_some_iff (short : text.length ≤ digitLimit) :
    readDigits? text = some number ↔ text = Nat.toDigits 10 number := by
  constructor
  · intro read
    simp only [readDigits?] at read
    split at read
    · rename_i single
      cases read
      exact single
    · split at read
      · rename_i conditions
        cases read
        exact (toDigits_digitsValue
          (isNumeral_of_leadingDigits conditions.1 conditions.2.1)).symm
      · cases read
  · rintro rfl
    rcases Nat.eq_zero_or_pos number with rfl | positive
    · rfl
    · have numeral := isNumeral_toDigits positive
      have leading := leadingDigits_of_numeral numeral
      have notZero : Nat.toDigits 10 number ≠ ['0'] := by
        rcases numeral.leading with ⟨first, rest, digits, nonzero⟩
        rw [digits]
        rintro ⟨⟩
        exact nonzero rfl
      rw [readDigits?, if_neg notZero, if_pos ⟨Nat.toDigits_ne_nil, leading, short⟩,
        digitsValue_toDigits]

end Digits

/-! ### Underscores -/

section Underscores

variable {text digits : List Char}

theorem hasDoubleUnderscore_cons (char : Char) (rest : List Char) :
    hasDoubleUnderscore (char :: rest) =
      (decide (char = '_' ∧ rest.head? = some '_') || hasDoubleUnderscore rest) := by
  by_cases underscore : char = '_'
  · subst underscore
    cases rest with
    | nil => rfl
    | cons next others =>
        by_cases another : next = '_'
        · subst another
          rfl
        · simp [hasDoubleUnderscore, another]
  · simp [hasDoubleUnderscore, underscore]

/-- Underscores are separate if each of them stands alone between other characters. -/
def IsSeparate (text : List Char) : Prop :=
  text.head? ≠ some '_' ∧ text.getLast? ≠ some '_' ∧ hasDoubleUnderscore text = false

theorem withoutUnderscores_of_isSeparate (isSeparate : IsSeparate text) :
    withoutUnderscores text = text.filter (· ≠ '_') := by
  rcases isSeparate with ⟨head, last, single⟩
  rw [withoutUnderscores, if_neg]
  simp [head, last, single]

theorem ne_underscore_of_isDigit {char : Char} (isDigit : char.isDigit = true) : char ≠ '_' := by
  rintro rfl
  exact absurd isDigit (by decide)

theorem isSeparate_cons {char : Char} (other : char ≠ '_') (rest : List Char) :
    IsSeparate (char :: rest) ↔
      rest.getLast? ≠ some '_' ∧ hasDoubleUnderscore rest = false := by
  cases rest <;> simp [IsSeparate, hasDoubleUnderscore_cons, other, hasDoubleUnderscore]

theorem isSeparate_of_not_mem (absent : '_' ∉ text) : IsSeparate text := by
  induction text with
  | nil => simp [IsSeparate, hasDoubleUnderscore]
  | cons char rest ih =>
      rw [List.mem_cons, not_or] at absent
      rw [isSeparate_cons (Ne.symm absent.1)]
      exact (ih absent.2).2

/-- The underscores that group digits are separate. -/
theorem IsGrouped.isSeparate (grouped : IsGrouped text digits) : IsSeparate text := by
  induction grouped with
  | single isDigit => simp [isSeparate_cons (ne_underscore_of_isDigit isDigit), hasDoubleUnderscore]
  | joined isDigit rest ih =>
      rw [isSeparate_cons (ne_underscore_of_isDigit isDigit)]
      exact ih.2
  | parted isDigit rest ih =>
      rcases rest.exists_first with ⟨first, others, more, rfl, -, -⟩
      rw [isSeparate_cons (ne_underscore_of_isDigit isDigit), List.getLast?_cons_cons,
        hasDoubleUnderscore_cons]
      simpa [ih.2.2, ih.2.1] using ih.1

theorem IsGrouped.filter (grouped : IsGrouped text digits) : text.filter (· ≠ '_') = digits := by
  induction grouped with
  | single isDigit => simp [ne_underscore_of_isDigit isDigit]
  | joined isDigit rest ih => simpa [ne_underscore_of_isDigit isDigit] using ih
  | parted isDigit rest ih => simpa [ne_underscore_of_isDigit isDigit] using ih

/-- Characters other than underscores are grouped if they are digits, and all underscores are
separate. -/
theorem isGrouped_filter : ∀ {text : List Char}, text ≠ [] → IsSeparate text →
    (∀ char ∈ text.filter (· ≠ '_'), char.isDigit = true) →
    IsGrouped text (text.filter (· ≠ '_'))
  | [], nonempty, _, _ => absurd rfl nonempty
  | [char], _, isSeparate, digital => by
      have other : char ≠ '_' := by simpa [IsSeparate] using isSeparate.1
      simp only [ne_eq, other, not_false_eq_true, decide_true, List.filter_cons_of_pos,
        List.filter_nil] at digital ⊢
      exact .single (digital char (List.mem_singleton_self char))
  | char :: next :: rest, _, isSeparate, digital => by
      have other : char ≠ '_' := by simpa using isSeparate.1
      have isDigit : char.isDigit = true := digital char (by simp [other])
      have behind := (isSeparate_cons other _).mp isSeparate
      rw [List.filter_cons_of_pos (by simp [other])] at digital ⊢
      rw [List.forall_mem_cons] at digital
      by_cases underscore : next = '_'
      · subst underscore
        rw [hasDoubleUnderscore_cons] at behind
        simp only [true_and, Bool.or_eq_false_iff, decide_eq_false_iff_not] at behind
        rw [List.filter_cons_of_neg (by simp)] at digital ⊢
        cases rest with
        | nil => exact absurd rfl behind.1
        | cons third others =>
            rw [List.getLast?_cons_cons] at behind
            exact .parted isDigit
              (isGrouped_filter (List.cons_ne_nil _ _) ⟨behind.2.1, behind.1, behind.2.2⟩ digital.2)
      · refine .joined isDigit (isGrouped_filter (List.cons_ne_nil _ _) ⟨?_, behind⟩ digital.2)
        simpa using underscore

/-- Separate underscores are dropped; with others the text stays as it is and holds one. -/
theorem withoutUnderscores_cases (text : List Char) :
    (IsSeparate text ∧ withoutUnderscores text = text.filter (· ≠ '_')) ∨
      ('_' ∈ text ∧ withoutUnderscores text = text) := by
  by_cases isSeparate : IsSeparate text
  · exact Or.inl ⟨isSeparate, withoutUnderscores_of_isSeparate isSeparate⟩
  · refine Or.inr ⟨?_, ?_⟩
    · apply Decidable.byContradiction
      intro absent
      exact isSeparate (isSeparate_of_not_mem absent)
    · rw [withoutUnderscores, if_pos]
      simpa [IsSeparate, Decidable.or_iff_not_imp_left] using isSeparate

/-- Digits are left of a text without underscores iff it groups them. -/
theorem withoutUnderscores_eq_digits_iff (nonempty : digits ≠ [])
    (digital : ∀ digit ∈ digits, digit.isDigit = true) :
    withoutUnderscores text = digits ↔ IsGrouped text digits := by
  constructor
  · rintro rfl
    rcases withoutUnderscores_cases text with ⟨isSeparate, filtered⟩ | ⟨underscore, same⟩
    · rw [filtered] at nonempty digital ⊢
      apply isGrouped_filter _ isSeparate digital
      rintro rfl
      exact nonempty rfl
    · rw [same] at digital
      exact absurd (digital '_' underscore) (by decide)
  · intro grouped
    rw [withoutUnderscores_of_isSeparate grouped.isSeparate, grouped.filter]

theorem length_withoutUnderscores_le (text : List Char) :
    (withoutUnderscores text).length ≤ text.length := by
  rcases withoutUnderscores_cases text with ⟨-, filtered⟩ | ⟨-, same⟩
  · rw [filtered]
    exact List.length_filter_le _ _
  · rw [same]

/-- Behind a minus sign an underscore may stand in front of the digits. -/
theorem withoutUnderscores_minus_eq_iff (nonempty : digits ≠ [])
    (digital : ∀ digit ∈ digits, digit.isDigit = true) :
    withoutUnderscores ('-' :: text) = '-' :: digits ↔
      ∃ gap body, text = gap ++ body ∧ (gap = [] ∨ gap = ['_']) ∧ IsGrouped body digits := by
  have noUnderscore : '_' ∉ digits := fun occurs => absurd (digital '_' occurs) (by decide)
  constructor
  · intro same
    rcases withoutUnderscores_cases ('-' :: text) with ⟨isSeparate, filtered⟩ | ⟨occurs, unchanged⟩
    · have filter : text.filter (· ≠ '_') = digits := by
        rw [filtered, List.filter_cons_of_pos (by simp)] at same
        exact (List.cons.inj same).2
      rw [isSeparate_cons (by decide)] at isSeparate
      subst filter
      -- The text starts with an underscore, which is the gap, or is separate by itself.
      cases text with
      | nil => exact absurd rfl nonempty
      | cons first body =>
          by_cases underscore : first = '_'
          · subst underscore
            rw [List.filter_cons_of_neg (by simp)] at nonempty digital ⊢
            rw [hasDoubleUnderscore_cons] at isSeparate
            simp only [true_and, Bool.or_eq_false_iff, decide_eq_false_iff_not] at isSeparate
            cases body with
            | nil => exact absurd rfl nonempty
            | cons second others =>
                rw [List.getLast?_cons_cons] at isSeparate
                refine ⟨['_'], second :: others, rfl, Or.inr rfl, ?_⟩
                exact isGrouped_filter (List.cons_ne_nil _ _)
                  ⟨isSeparate.2.1, isSeparate.1, isSeparate.2.2⟩ digital
          · refine ⟨[], first :: body, rfl, Or.inl rfl, ?_⟩
            exact isGrouped_filter (List.cons_ne_nil _ _) ⟨by simpa using underscore, isSeparate⟩
              digital
    · rw [unchanged, List.cons.injEq] at same
      rw [same.2] at occurs
      simp [noUnderscore] at occurs
  · rintro ⟨gap, body, rfl, gapped, grouped⟩
    have isSeparate := grouped.isSeparate
    have separated : IsSeparate ('-' :: (gap ++ body)) := by
      rw [isSeparate_cons (by decide)]
      rcases gapped with rfl | rfl
      · exact isSeparate.2
      · rcases grouped.exists_first with ⟨first, others, more, rfl, -, -⟩
        rw [List.singleton_append, List.getLast?_cons_cons, hasDoubleUnderscore_cons]
        simpa [isSeparate.2.2, isSeparate.2.1] using isSeparate.1
    rw [withoutUnderscores_of_isSeparate separated]
    rcases gapped with rfl | rfl <;> simpa using grouped.filter

end Underscores

/-! ### Fractions -/

section Fraction

variable {text : List Char}

/-- An empty fraction behind a whole part is dropped. -/
theorem withoutFraction_append {whole fraction : List Char} (noPoint : '.' ∉ whole)
    (empty : IsEmptyFraction fraction) : withoutFraction (whole ++ fraction) = whole := by
  have passed : ∀ char ∈ whole, decide (char ≠ '.') = true := by
    intro char occurs
    rw [decide_eq_true_eq]
    rintro rfl
    exact noPoint occurs
  rw [withoutFraction, List.dropWhile_append_of_pos passed]
  rcases empty with rfl | ⟨zeros, rfl⟩
  · exact List.append_nil whole
  · rw [List.takeWhile_append_of_pos passed]
    simp

/-- Nothing but an empty fraction is taken away. -/
theorem exists_fraction (text : List Char) :
    ∃ fraction, text = withoutFraction text ++ fraction ∧ IsEmptyFraction fraction := by
  have whole : text.takeWhile (· ≠ '.') ++ text.dropWhile (· ≠ '.') = text :=
    List.takeWhile_append_dropWhile
  rw [withoutFraction]
  split
  · rename_i point digit digits behind
    split
    · rename_i zeros
      have isPoint := List.head?_dropWhile_not (· ≠ '.') text
      rw [behind] at isPoint whole
      simp only [List.head?_cons, ne_eq, decide_not, Bool.not_eq_false', decide_eq_true_eq,
        List.all_cons, Bool.and_eq_true, List.all_eq_true] at isPoint zeros
      refine ⟨point :: digit :: digits, whole.symm, Or.inr ⟨digits.length, ?_⟩⟩
      rw [isPoint, zeros.1, ← List.eq_replicate_of_mem zeros.2]
    · exact ⟨[], (List.append_nil text).symm, Or.inl rfl⟩
  · exact ⟨[], (List.append_nil text).symm, Or.inl rfl⟩

theorem length_withoutFraction_le (text : List Char) :
    (withoutFraction text).length ≤ text.length := by
  rcases exists_fraction text with ⟨fraction, whole, -⟩
  have lengths := congrArg List.length whole
  rw [List.length_append] at lengths
  omega

end Fraction

/-! ### Padding -/

section Padding

variable {text stripped : List Char}

/-- What is dropped in front are zeros and underscores. -/
theorem exists_padding_of_unpad {last : Char} (filler : last = '0' ∨ last = '_')
    (unpadded : unpad last text = some stripped) :
    ∃ padding, last :: text = padding ++ stripped ∧
      (∀ char ∈ padding, char = '0' ∨ char = '_') ∧
      (stripped.head? = some '-' → padding ≠ []) := by
  have notMinus : last ≠ '-' := by
    rintro rfl
    exact absurd filler (by decide)
  induction text generalizing last with
  | nil =>
      cases unpadded
      exact ⟨[], rfl, by simp, by simpa using notMinus⟩
  | cons char rest ih =>
      simp only [unpad] at unpadded
      split at unpadded
      · rename_i another
        have notMinusNext : char ≠ '-' := by
          rintro rfl
          exact absurd another (by decide)
        rcases ih another unpadded notMinusNext with ⟨padding, split, all, -⟩
        refine ⟨last :: padding, by rw [split, List.cons_append], ?_, by simp⟩
        rw [List.forall_mem_cons]
        exact ⟨filler, all⟩
      · split at unpadded
        · cases unpadded
          exact ⟨[last], rfl, by simpa using filler, by simp⟩
        · split at unpadded
          · cases unpadded
            exact ⟨[], rfl, by simp, by simpa using notMinus⟩
          · cases unpadded

/-- Nothing but a padding is taken away, and a padding stands in front of a minus sign. -/
theorem exists_padding (unpadded : withoutPadding text = some stripped) :
    ∃ padding, text = padding ++ stripped ∧ IsPadding padding ∧
      (stripped.head? = some '-' → padding ≠ []) := by
  cases text with
  | nil => cases unpadded
  | cons char rest =>
      simp only [withoutPadding] at unpadded
      split at unpadded
      · rename_i zero
        rcases exists_padding_of_unpad (Or.inl zero) unpadded with ⟨padding, split, all, late⟩
        refine ⟨padding, split, ⟨?_, all⟩, late⟩
        subst zero
        cases padding with
        | nil => simp
        | cons first others =>
            cases split
            simp
      · split at unpadded
        · rename_i leading
          cases unpadded
          refine ⟨[], rfl, by simp [IsPadding], ?_⟩
          intro minus
          rw [List.head?_cons, Option.some.injEq] at minus
          subst minus
          exact absurd leading (by decide)
        · cases unpadded

/-- Zeros and underscores in front of what stays are dropped. -/
theorem unpad_append {padding : List Char} (filler : ∀ char ∈ padding, char = '0' ∨ char = '_')
    (stays : ∀ last, unpad last stripped = some stripped) (last : Char) :
    unpad last (padding ++ stripped) = some stripped := by
  induction padding generalizing last with
  | nil => exact stays last
  | cons char rest ih =>
      rw [List.forall_mem_cons] at filler
      rw [List.cons_append, unpad, if_pos filler.1]
      exact ih filler.2 char

theorem withoutPadding_eq_unpad {first : Char} (isDigit : first.isDigit = true)
    (rest : List Char) (last : Char) :
    withoutPadding (first :: rest) = unpad last (first :: rest) := by
  by_cases zero : first = '0'
  · simp [withoutPadding, unpad, zero]
  · have leading : isLeadingDigit first = true := by simp [isLeadingDigit, isDigit, zero]
    simp [withoutPadding, unpad, zero, leading, ne_underscore_of_isDigit isDigit]

/-- A padding that begins with a digit is dropped. -/
theorem withoutPadding_append {padding : List Char}
    (filler : ∀ char ∈ padding, char = '0' ∨ char = '_')
    (stays : ∀ last, unpad last stripped = some stripped)
    (starts : ∃ first rest, padding ++ stripped = first :: rest ∧ first.isDigit = true) :
    withoutPadding (padding ++ stripped) = some stripped := by
  rcases starts with ⟨first, rest, split, isDigit⟩
  rw [split, withoutPadding_eq_unpad isDigit rest '0', ← split]
  exact unpad_append filler stays '0'

theorem unpad_minus (rest : List Char) (last : Char) :
    unpad last ('-' :: rest) = some ('-' :: rest) := by
  simp [unpad]

/-- Behind the padding the decimal digits of a number stay. -/
theorem unpad_grouped {body fraction : List Char} {number : Nat}
    (grouped : IsGrouped body (Nat.toDigits 10 number)) (empty : IsEmptyFraction fraction)
    (last : Char) : unpad last (body ++ fraction) = some (body ++ fraction) := by
  rcases Nat.eq_zero_or_pos number with rfl | positive
  · rw [Nat.toDigits_zero] at grouped
    rw [grouped.eq_of_single]
    rcases empty with rfl | ⟨zeros, rfl⟩
    · rfl
    · simp [unpad, isLeadingDigit]
  · rcases (isNumeral_toDigits positive).leading with ⟨first, others, digits, nonzero⟩
    rw [digits] at grouped
    rcases grouped.exists_first with ⟨first, rest, more, rfl, same, isDigit⟩
    cases same
    have leading : isLeadingDigit first = true := by simp [isLeadingDigit, isDigit, nonzero]
    simp [unpad, nonzero, leading, ne_underscore_of_isDigit isDigit]

end Padding

end BuildSteps.Text
