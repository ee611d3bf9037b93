import BuildSteps.Text.Casing
import Mathlib.Data.List.Forall2

/-!
# Words of capital letters

A text in capitals may be longer than the text: some characters outside ASCII have a capital form of
several characters. A word in which none of these forms occurs can only come from a text that spells
it letter by letter. Which characters stand for a letter is then a matter of single characters:
apart from the letter in both cases, the dotless i stands for I and the long s for S.
-/

namespace BuildSteps.Text

/-- A character stands for a capital letter if that letter, and nothing else, is its capital form.
-/
def StandsFor (char letter : Char) : Prop :=
  capital char = [letter]

/-- A word is free of mixed forms if no capital form of several characters occurs in it. -/
def IsUnmixed (word : List Char) : Prop :=
  ∀ form ∈ mixedCapitals.map Prod.snd, form.length ≠ 1 → ¬form <:+: word

theorem IsUnmixed.tail {letter : Char} {rest : List Char} (unmixed : IsUnmixed (letter :: rest)) :
    IsUnmixed rest := by
  intro form listed several inside
  exact unmixed form listed several (List.infix_cons inside)

/-- A character stands for some letter in capitals, or its capital form is not one character. -/
theorem capital_cases (char : Char) :
    (∃ letter, StandsFor char letter) ∨
      ∃ form ∈ mixedCapitals.map Prod.snd, form.length ≠ 1 ∧ capital char = form := by
  simp only [StandsFor, capital]
  split
  · exact Or.inl ⟨_, rfl⟩
  · cases found : mixedCapitals.lookup char with
    | none => exact Or.inl ⟨char, rfl⟩
    | some form =>
        by_cases single : form.length = 1
        · rcases List.length_eq_one_iff.mp single with ⟨letter, rfl⟩
          exact Or.inl ⟨letter, rfl⟩
        · rw [List.lookup_eq_some_iff] at found
          rcases found with ⟨front, back, whole, -⟩
          refine Or.inr ⟨form, ?_, single, rfl⟩
          rw [whole]
          simp

/-- A word without mixed forms is spelled letter by letter. -/
theorem capitals_eq_iff {text word : List Char} (unmixed : IsUnmixed word) :
    capitals text = word ↔ List.Forall₂ StandsFor text word := by
  induction text generalizing word with
  | nil =>
      rw [List.forall₂_nil_left_iff]
      exact eq_comm
  | cons char rest ih =>
      have split : capitals (char :: rest) = capital char ++ capitals rest := rfl
      rw [split, List.forall₂_cons_left_iff]
      rcases capital_cases char with ⟨letter, stands⟩ | ⟨form, listed, several, mixed⟩
      · rw [stands]
        constructor
        · rintro rfl
          exact ⟨letter, _, stands, (ih unmixed.tail).mp rfl, rfl⟩
        · rintro ⟨other, tail, same, spelled, rfl⟩
          cases stands.symm.trans same
          rw [(ih unmixed.tail).mpr spelled]
          rfl
      · rw [mixed]
        constructor
        · rintro rfl
          exact absurd (List.prefix_append form _).isInfix (unmixed form listed several)
        · rintro ⟨letter, tail, stands, -⟩
          rw [← mixed, stands] at several
          exact absurd rfl several

section Letters

variable {char letter : Char}

theorem isUpper_iff : char.isUpper = true ↔ 65 ≤ char.toNat ∧ char.toNat ≤ 90 := by
  delta Char.isUpper
  simp [UInt32.le_iff_toNat_le, ← Char.toNat_val]

theorem toNat_toUpper (char : Char) :
    char.toUpper.toNat =
      if 97 ≤ char.toNat ∧ char.toNat ≤ 122 then char.toNat - 32 else char.toNat := by
  delta Char.toUpper
  simp only [UInt32.le_iff_toNat_le]
  split
  · rename_i small
    have inRange : 97 ≤ char.toNat ∧ char.toNat ≤ 122 := small
    rw [if_pos inRange, ← Char.toNat_val, UInt32.toNat_add, Char.toNat_val]
    have shift : ('A'.val - 'a'.val).toNat = 4294967264 := rfl
    omega
  · rename_i other
    exact (if_neg other).symm

theorem toNat_toLower (char : Char) :
    char.toLower.toNat =
      if 65 ≤ char.toNat ∧ char.toNat ≤ 90 then char.toNat + 32 else char.toNat := by
  delta Char.toLower
  simp only [ge_iff_le, UInt32.le_iff_toNat_le]
  split
  · rename_i capital
    have inRange : 65 ≤ char.toNat ∧ char.toNat ≤ 90 := capital
    rw [if_pos inRange, ← Char.toNat_val, UInt32.toNat_add, Char.toNat_val]
    have shift : ('a'.val - 'A'.val).toNat = 32 := rfl
    omega
  · rename_i other
    exact (if_neg other).symm

theorem toUpper_eq_iff (upper : letter.isUpper = true) :
    char.toUpper = letter ↔ char = letter ∨ char = letter.toLower := by
  rw [isUpper_iff] at upper
  simp only [← Char.toNat_inj, toNat_toUpper, toNat_toLower, if_pos upper]
  split <;> omega

theorem single_of_mixed :
    ∀ entry ∈ mixedCapitals, entry.2.length = 1 → entry = ('ı', ['I']) ∨ entry = ('ſ', ['S']) := by
  decide

/-- Two characters outside the ASCII letters stand for one: the dotless i and the long s. -/
theorem standsFor_of_not_ascii (notAscii : ¬char.toNat < 0x80) (other : char ≠ letter) :
    StandsFor char letter ↔ (char = 'ı' ∧ letter = 'I') ∨ (char = 'ſ' ∧ letter = 'S') := by
  simp only [StandsFor, capital, if_neg notAscii]
  constructor
  · intro stands
    cases found : mixedCapitals.lookup char with
    | none =>
        rw [found, Option.getD_none, List.singleton_inj] at stands
        exact absurd stands other
    | some form =>
        rw [found, Option.getD_some] at stands
        subst stands
        rw [List.lookup_eq_some_iff] at found
        rcases found with ⟨front, back, whole, -⟩
        have listed : (char, [letter]) ∈ mixedCapitals := by simp [whole]
        simpa using single_of_mixed _ listed rfl
  · rintro (⟨rfl, rfl⟩ | ⟨rfl, rfl⟩) <;> rfl

/-- A capital letter is stood for by itself and its small form, and by one character outside ASCII
if it is I or S. -/
theorem standsFor_iff (upper : letter.isUpper = true) :
    StandsFor char letter ↔ char = letter ∨ char = letter.toLower ∨
      (char = 'ı' ∧ letter = 'I') ∨ (char = 'ſ' ∧ letter = 'S') := by
  by_cases ascii : char.toNat < 0x80
  · have notDotless : char ≠ 'ı' := by
      rintro rfl
      exact absurd ascii (by decide)
    have notLong : char ≠ 'ſ' := by
      rintro rfl
      exact absurd ascii (by decide)
    simp [StandsFor, capital, ascii, toUpper_eq_iff upper, notDotless, notLong]
  · have bounds := isUpper_iff.mp upper
    have notLetter : char ≠ letter := by
      rintro rfl
      omega
    have notLower : char ≠ letter.toLower := by
      rintro rfl
      rw [toNat_toLower, if_pos bounds] at ascii
      omega
    simp only [standsFor_of_not_ascii ascii notLetter, notLetter, notLower, false_or]

end Letters

end BuildSteps.Text
