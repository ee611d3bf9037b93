import BuildSteps.Proofs.Settings.Numerals
import BuildSteps.Proofs.Text.Trimming

/-!
# The grammar of integers in texts

An integer is written as digits, which single underscores may part, with an optional fraction of
zeros behind them and an optional sign in front. `IsRegular` and `IsSigned` say so without a look at
the reader. Two freedoms go beyond that. Behind a leading zero any zeros and underscores may follow
one another as padding (`IsPadded`), and a minus sign may stand behind the padding in place of one
in front (`HasLateMinus`).

The digits may have leading zeros of their own. `isPadded_iff` puts these on the side of the
padding, so that what follows it are the decimal digits of the number.
-/

namespace BuildSteps.Text

/-- A text groups digits if single underscores at most part them. -/
inductive IsGrouped : List Char → List Char → Prop
  | single {digit : Char} (isDigit : digit.isDigit = true) : IsGrouped [digit] [digit]
  | joined {digit : Char} {text digits : List Char} (isDigit : digit.isDigit = true)
      (rest : IsGrouped text digits) : IsGrouped (digit :: text) (digit :: digits)
  | parted {digit : Char} {text digits : List Char} (isDigit : digit.isDigit = true)
      (rest : IsGrouped text digits) : IsGrouped (digit :: '_' :: text) (digit :: digits)

/-- Digits denote a number if they are its decimal digits behind any number of zeros. -/
def Denotes (digits : List Char) (number : Nat) : Prop :=
  ∃ zeros, digits = List.replicate zeros '0' ++ Nat.toDigits 10 number

/-- A fraction is empty if it is absent, or a point with nothing but zeros behind it. -/
def IsEmptyFraction (fraction : List Char) : Prop :=
  fraction = [] ∨ ∃ zeros, fraction = '.' :: '0' :: List.replicate zeros '0'

/-- A text is regular if it consists of grouped digits, which denote a number, and an empty
fraction. -/
def IsRegular (text : List Char) (number : Nat) : Prop :=
  ∃ body digits fraction, text = body ++ fraction ∧ IsGrouped body digits ∧
    Denotes digits number ∧ IsEmptyFraction fraction

/-- A padding starts with a zero, which zeros and underscores follow in any order, or is absent. -/
def IsPadding (padding : List Char) : Prop :=
  padding.head? ≠ some '_' ∧ ∀ char ∈ padding, char = '0' ∨ char = '_'

/-- A text is padded if it is regular behind a padding. -/
def IsPadded (text : List Char) (number : Nat) : Prop :=
  ∃ padding rest, text = padding ++ rest ∧ IsPadding padding ∧ IsRegular rest number

/-- A text has a late minus sign if one stands behind a padding. An underscore may follow it, and
the digits have no leading zeros. -/
def HasLateMinus (text : List Char) (number : Nat) : Prop :=
  ∃ padding gap body fraction, text = padding ++ '-' :: (gap ++ (body ++ fraction)) ∧
    IsPadding padding ∧ padding ≠ [] ∧ (gap = [] ∨ gap = ['_']) ∧
    IsGrouped body (Nat.toDigits 10 number) ∧ IsEmptyFraction fraction

/-- An integer is signed if a text of some kind stands behind an optional sign. -/
inductive IsSigned (Kind : List Char → Nat → Prop) : List Char → Int → Prop
  | bare {text : List Char} {number : Nat} (magnitude : Kind text number) :
      IsSigned Kind text number
  | plus {text : List Char} {number : Nat} (magnitude : Kind text number) :
      IsSigned Kind ('+' :: text) number
  | minus {text : List Char} {number : Nat} (magnitude : Kind text number) :
      IsSigned Kind ('-' :: text) (-number)

/-- An integer is signed late if its minus sign stands behind a padding. A plus sign may stand in
front. -/
inductive IsSignedLate : List Char → Int → Prop
  | bare {text : List Char} {number : Nat} (late : HasLateMinus text number) :
      IsSignedLate text (-number)
  | plus {text : List Char} {number : Nat} (late : HasLateMinus text number) :
      IsSignedLate ('+' :: text) (-number)

/-- An integer is written in a text if a word of a grammar for it stands between white space. -/
def IsWrittenIn (Grammar : List Char → Int → Prop) (text : List Char) (number : Int) : Prop :=
  ∃ word, StandsIn isWhiteSpace word text ∧ Grammar word number

section Grouped

variable {text digits : List Char}

theorem IsGrouped.chars (grouped : IsGrouped text digits) :
    ∀ char ∈ text, char.isDigit = true ∨ char = '_' := by
  induction grouped with
  | single isDigit => simp [isDigit]
  | joined isDigit rest ih => simpa [isDigit] using ih
  | parted isDigit rest ih => simpa [isDigit] using ih

theorem IsGrouped.not_mem_point (grouped : IsGrouped text digits) : '.' ∉ text := by
  intro occurs
  exact absurd (grouped.chars '.' occurs) (by decide)

/-- A grouped text starts with its first digit. -/
theorem IsGrouped.exists_first (grouped : IsGrouped text digits) :
    ∃ first rest others, text = first :: rest ∧ digits = first :: others ∧
      first.isDigit = true := by
  cases grouped with
  | single isDigit => exact ⟨_, _, _, rfl, rfl, isDigit⟩
  | joined isDigit rest => exact ⟨_, _, _, rfl, rfl, isDigit⟩
  | parted isDigit rest => exact ⟨_, _, _, rfl, rfl, isDigit⟩

theorem IsGrouped.ne_nil (grouped : IsGrouped text digits) : text ≠ [] ∧ digits ≠ [] := by
  rcases grouped.exists_first with ⟨first, rest, others, rfl, rfl, -⟩
  simp

theorem IsRegular.isGrouped {number : Nat} (regular : IsRegular text number)
    (noPoint : '.' ∉ text) : ∃ digits, IsGrouped text digits := by
  rcases regular with ⟨body, digits, fraction, rfl, grouped, -, rfl | ⟨zeros, rfl⟩⟩
  · exact ⟨digits, by rwa [List.append_nil]⟩
  · simp at noPoint

theorem IsGrouped.eq_of_single {digit : Char} (grouped : IsGrouped text [digit]) :
    text = [digit] := by
  cases grouped with
  | single isDigit => rfl
  | joined isDigit rest => exact absurd rfl rest.ne_nil.2
  | parted isDigit rest => exact absurd rfl rest.ne_nil.2

/-- Leading zeros of grouped digits are a padding. -/
theorem IsGrouped.behind_zeros {zeros : Nat} (nonempty : digits ≠ [])
    (grouped : IsGrouped text (List.replicate zeros '0' ++ digits)) :
    ∃ padding body, text = padding ++ body ∧ IsPadding padding ∧ IsGrouped body digits := by
  induction zeros generalizing text with
  | zero => exact ⟨[], text, rfl, by simp [IsPadding], grouped⟩
  | succ zeros ih =>
      rw [List.replicate_succ, List.cons_append] at grouped
      generalize others : List.replicate zeros '0' ++ digits = behind at grouped ih
      cases grouped with
      | single isDigit => simp [nonempty] at others
      | joined isDigit rest =>
          rcases ih rest with ⟨padding, body, rfl, padded, bodied⟩
          refine ⟨'0' :: padding, body, rfl, ⟨by simp, ?_⟩, bodied⟩
          simpa using padded.2
      | parted isDigit rest =>
          rcases ih rest with ⟨padding, body, rfl, padded, bodied⟩
          refine ⟨'0' :: '_' :: padding, body, rfl, ⟨by simp, ?_⟩, bodied⟩
          simpa using padded.2

end Grouped

section Padded

variable {text : List Char} {number : Nat}

theorem IsPadding.append {first second : List Char} (left : IsPadding first)
    (right : IsPadding second) : IsPadding (first ++ second) := by
  constructor
  · cases first with
    | nil => exact right.1
    | cons char rest => exact left.1
  · intro char occurs
    rcases List.mem_append.mp occurs with before | behind
    · exact left.2 char before
    · exact right.2 char behind

theorem IsPadding.exists_zero {padding : List Char} (padded : IsPadding padding)
    (nonempty : padding ≠ []) : ∃ rest, padding = '0' :: rest := by
  cases padding with
  | nil => exact absurd rfl nonempty
  | cons first rest =>
      rcases padded.2 first (List.mem_cons_self ..) with rfl | rfl
      · exact ⟨rest, rfl⟩
      · exact absurd rfl padded.1

/-- A padded text consists of a padding, the decimal digits of the number in groups, and an empty
fraction. -/
theorem isPadded_iff :
    IsPadded text number ↔
      ∃ padding body fraction, text = padding ++ (body ++ fraction) ∧ IsPadding padding ∧
        IsGrouped body (Nat.toDigits 10 number) ∧ IsEmptyFraction fraction := by
  constructor
  · rintro ⟨padding, _, rfl, padded, body, digits, fraction, rfl, grouped, ⟨zeros, rfl⟩, empty⟩
    rcases grouped.behind_zeros Nat.toDigits_ne_nil with ⟨more, rest, rfl, paddedMore, bodied⟩
    exact ⟨padding ++ more, rest, fraction, by simp, padded.append paddedMore, bodied, empty⟩
  · rintro ⟨padding, body, fraction, rfl, padded, grouped, empty⟩
    exact ⟨padding, _, rfl, padded, body, _, fraction, rfl, grouped, ⟨0, rfl⟩, empty⟩

theorem IsRegular.isPadded (regular : IsRegular text number) : IsPadded text number :=
  ⟨[], text, rfl, by simp [IsPadding], regular⟩

theorem IsPadded.exists_first (padded : IsPadded text number) :
    ∃ first rest, text = first :: rest ∧ first.isDigit = true := by
  rcases isPadded_iff.mp padded with ⟨padding, body, fraction, rfl, front, grouped, -⟩
  by_cases nothing : padding = []
  · rcases grouped.exists_first with ⟨first, rest, others, rfl, -, isDigit⟩
    subst nothing
    exact ⟨first, rest ++ fraction, rfl, isDigit⟩
  · rcases front.exists_zero nothing with ⟨rest, rfl⟩
    exact ⟨'0', _, rfl, by decide⟩

theorem not_isPadded_cons {first : Char} (noDigit : first.isDigit = false) :
    ¬ IsPadded (first :: text) number := by
  intro padded
  rcases padded.exists_first with ⟨other, rest, split, isDigit⟩
  cases split
  rw [noDigit] at isDigit
  cases isDigit

theorem not_hasLateMinus_cons {first : Char} (other : first ≠ '0') :
    ¬ HasLateMinus (first :: text) number := by
  rintro ⟨padding, gap, body, fraction, split, padded, nonempty, -⟩
  rcases padded.exists_zero nonempty with ⟨rest, rfl⟩
  cases split
  exact other rfl

end Padded

section Signed

variable {text : List Char} {number : Int} {Kind : List Char → Nat → Prop}

theorem IsSigned.isPadded (signed : IsSigned IsRegular text number) :
    IsSigned IsPadded text number := by
  cases signed with
  | bare regular => exact .bare regular.isPadded
  | plus regular => exact .plus regular.isPadded
  | minus regular => exact .minus regular.isPadded

theorem isSigned_plus_iff :
    IsSigned IsPadded ('+' :: text) number ↔
      ∃ magnitude : Nat, IsPadded text magnitude ∧ number = magnitude := by
  constructor
  · intro signed
    cases signed with
    | bare padded => exact absurd padded (not_isPadded_cons (by decide))
    | plus padded => exact ⟨_, padded, rfl⟩
  · rintro ⟨magnitude, padded, rfl⟩
    exact .plus padded

theorem isSigned_minus_iff :
    IsSigned IsPadded ('-' :: text) number ↔
      ∃ magnitude : Nat, IsPadded text magnitude ∧ number = -magnitude := by
  constructor
  · intro signed
    cases signed with
    | bare padded => exact absurd padded (not_isPadded_cons (by decide))
    | minus padded => exact ⟨_, padded, rfl⟩
  · rintro ⟨magnitude, padded, rfl⟩
    exact .minus padded

theorem isSigned_bare_iff (noPlus : ∀ rest, text ≠ '+' :: rest)
    (noMinus : ∀ rest, text ≠ '-' :: rest) :
    IsSigned Kind text number ↔ ∃ magnitude : Nat, Kind text magnitude ∧ number = magnitude := by
  constructor
  · intro signed
    cases signed with
    | bare magnitude => exact ⟨_, magnitude, rfl⟩
    | plus magnitude => exact absurd rfl (noPlus _)
    | minus magnitude => exact absurd rfl (noMinus _)
  · rintro ⟨number, magnitude, rfl⟩
    exact .bare magnitude

theorem isSignedLate_plus_iff :
    IsSignedLate ('+' :: text) number ↔
      ∃ magnitude : Nat, HasLateMinus text magnitude ∧ number = -magnitude := by
  constructor
  · intro signed
    cases signed with
    | bare late => exact absurd late (not_hasLateMinus_cons (by decide))
    | plus late => exact ⟨_, late, rfl⟩
  · rintro ⟨magnitude, late, rfl⟩
    exact .plus late

theorem isSignedLate_bare_iff (noPlus : ∀ rest, text ≠ '+' :: rest) :
    IsSignedLate text number ↔
      ∃ magnitude : Nat, HasLateMinus text magnitude ∧ number = -magnitude := by
  constructor
  · intro signed
    cases signed with
    | bare late => exact ⟨_, late, rfl⟩
    | plus late => exact absurd rfl (noPlus _)
  · rintro ⟨magnitude, late, rfl⟩
    exact .bare late

theorem IsSignedLate.nonpos (signed : IsSignedLate text number) : number ≤ 0 := by
  cases signed <;> omega

theorem not_isSignedLate_minus : ¬ IsSignedLate ('-' :: text) number := by
  intro signed
  cases signed with
  | bare late => exact not_hasLateMinus_cons (by decide) late

end Signed

section Chars

variable {text : List Char}

/-- A character of an integer is a digit, an underscore, a point or a sign. -/
def IsIntegerChar (char : Char) : Prop :=
  char.isDigit = true ∨ char ∈ ['_', '.', '+', '-']

theorem not_isWhiteSpace_of_isIntegerChar {char : Char} (inside : IsIntegerChar char) :
    isWhiteSpace char = false := by
  rcases inside with isDigit | mark
  · exact not_isWhiteSpace_of_isDigit isDigit
  · simp only [List.mem_cons, List.not_mem_nil, or_false] at mark
    rcases mark with rfl | rfl | rfl | rfl <;> rfl

theorem IsPadding.isIntegerChar {padding : List Char} (padded : IsPadding padding) :
    ∀ char ∈ padding, IsIntegerChar char := by
  intro char occurs
  rcases padded.2 char occurs with rfl | rfl
  · exact Or.inl (by decide)
  · exact Or.inr (by decide)

theorem IsGrouped.isIntegerChar {digits : List Char} (grouped : IsGrouped text digits) :
    ∀ char ∈ text, IsIntegerChar char := by
  intro char occurs
  rcases grouped.chars char occurs with isDigit | rfl
  · exact Or.inl isDigit
  · exact Or.inr (by decide)

theorem IsEmptyFraction.isIntegerChar {fraction : List Char} (empty : IsEmptyFraction fraction) :
    ∀ char ∈ fraction, IsIntegerChar char := by
  rcases empty with rfl | ⟨zeros, rfl⟩
  · simp
  · intro char occurs
    simp only [List.mem_cons, List.mem_replicate] at occurs
    rcases occurs with rfl | rfl | ⟨-, rfl⟩
    · exact Or.inr (by decide)
    · exact Or.inl (by decide)
    · exact Or.inl (by decide)

theorem IsPadded.isIntegerChar {number : Nat} (padded : IsPadded text number) :
    ∀ char ∈ text, IsIntegerChar char := by
  rcases isPadded_iff.mp padded with ⟨padding, body, fraction, rfl, front, grouped, empty⟩
  simp only [List.forall_mem_append]
  exact ⟨front.isIntegerChar, grouped.isIntegerChar, empty.isIntegerChar⟩

theorem HasLateMinus.isIntegerChar {number : Nat} (late : HasLateMinus text number) :
    ∀ char ∈ text, IsIntegerChar char := by
  rcases late with ⟨padding, gap, body, fraction, rfl, front, -, gapped, grouped, empty⟩
  simp only [List.forall_mem_append, List.forall_mem_cons]
  refine ⟨front.isIntegerChar, Or.inr (by decide), ?_, grouped.isIntegerChar, empty.isIntegerChar⟩
  rcases gapped with rfl | rfl <;> simp [IsIntegerChar]

theorem IsSigned.isIntegerChar {number : Int} (signed : IsSigned IsPadded text number) :
    ∀ char ∈ text, IsIntegerChar char := by
  cases signed with
  | bare padded => exact padded.isIntegerChar
  | plus padded =>
      rw [List.forall_mem_cons]
      exact ⟨Or.inr (by decide), padded.isIntegerChar⟩
  | minus padded =>
      rw [List.forall_mem_cons]
      exact ⟨Or.inr (by decide), padded.isIntegerChar⟩

theorem IsSignedLate.isIntegerChar {number : Int} (signed : IsSignedLate text number) :
    ∀ char ∈ text, IsIntegerChar char := by
  cases signed with
  | bare late => exact late.isIntegerChar
  | plus late =>
      rw [List.forall_mem_cons]
      exact ⟨Or.inr (by decide), late.isIntegerChar⟩

end Chars

end BuildSteps.Text
