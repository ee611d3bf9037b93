import BuildSteps.Text.Blank
import Mathlib.Data.List.TakeWhile

/-!
# Trimmed texts

A trimmed text is what lies between the characters of a class at both ends: nothing but characters
of the class is left out around it, and it neither starts nor ends with one. Both facts together
determine it.
-/

namespace BuildSteps.Text

/-- A word stands in a text if only characters of a class surround it. -/
def StandsIn (inClass : Char → Bool) (word text : List Char) : Prop :=
  ∃ before after, text = before ++ (word ++ after) ∧
    (∀ char ∈ before, inClass char = true) ∧ ∀ char ∈ after, inClass char = true

/-- A word is bare if it neither starts nor ends with a character of a class. -/
def IsBare (inClass : Char → Bool) (word : List Char) : Prop :=
  (∀ char ∈ word.head?, inClass char = false) ∧ ∀ char ∈ word.getLast?, inClass char = false

variable {inClass : Char → Bool} {text word : List Char}

theorem isBare_of_forall (other : ∀ char ∈ word, inClass char = false) : IsBare inClass word := by
  constructor
  · intro char first
    exact other char (List.mem_of_head? first)
  · intro char last
    exact other char (List.mem_of_getLast? last)

theorem dropWhile_of_head (bare : ∀ char ∈ word.head?, inClass char = false) :
    word.dropWhile inClass = word := by
  cases word with
  | nil => rfl
  | cons first rest =>
      apply List.dropWhile_cons_of_neg
      simp [bare first rfl]

theorem not_inClass_of_head (text : List Char) :
    ∀ char ∈ (text.dropWhile inClass).head?, inClass char = false := by
  intro char first
  have stops := List.head?_dropWhile_not inClass text
  rw [Option.mem_def] at first
  simpa [first] using stops

theorem trimEnd_append (all : ∀ char ∈ text, inClass char = true) (word : List Char) :
    trimEnd inClass (word ++ text) = trimEnd inClass word := by
  rw [trimEnd, List.reverse_append, List.dropWhile_append_of_pos]
  · rfl
  · intro char occurs
    exact all char (List.mem_reverse.mp occurs)

theorem trimEnd_of_last (bare : ∀ char ∈ word.getLast?, inClass char = false) :
    trimEnd inClass word = word := by
  rw [trimEnd, dropWhile_of_head, List.reverse_reverse]
  rw [List.head?_reverse]
  exact bare

theorem exists_behind_trimEnd (text : List Char) :
    ∃ after, text = trimEnd inClass text ++ after ∧ ∀ char ∈ after, inClass char = true := by
  refine ⟨(text.reverse.takeWhile inClass).reverse, ?_, ?_⟩
  · rw [trimEnd, ← List.reverse_append, List.takeWhile_append_dropWhile, List.reverse_reverse]
  · intro char occurs
    exact List.all_eq_true.mp List.all_takeWhile char (List.mem_reverse.mp occurs)

theorem standsIn_trim (text : List Char) : StandsIn inClass (trim inClass text) text := by
  rcases exists_behind_trimEnd (text.dropWhile inClass) with ⟨after, rest, all⟩
  refine ⟨text.takeWhile inClass, after, ?_, ?_, all⟩
  · rw [trim, ← rest, List.takeWhile_append_dropWhile]
  · intro char occurs
    exact List.all_eq_true.mp List.all_takeWhile char occurs

theorem length_trim_le (text : List Char) : (trim inClass text).length ≤ text.length := by
  have standing : StandsIn inClass (trim inClass text) text := standsIn_trim text
  rcases standing with ⟨before, after, split, -⟩
  have lengths := congrArg List.length split
  simp only [List.length_append] at lengths
  omega

/-- A trimmed text neither begins nor ends with a character of the class. -/
theorem isBare_trim (text : List Char) : IsBare inClass (trim inClass text) := by
  rcases exists_behind_trimEnd (text.dropWhile inClass) with ⟨after, rest, -⟩
  constructor
  · intro char first
    apply not_inClass_of_head text
    rw [trim, Option.mem_def] at first
    rw [rest, Option.mem_def, List.head?_append, first]
    rfl
  · intro char last
    rw [trim, trimEnd, List.getLast?_reverse] at last
    exact not_inClass_of_head _ char last

/-- A trimmed text is the bare word that stands in the text. -/
theorem trim_eq_iff :
    trim inClass text = word ↔ IsBare inClass word ∧ StandsIn inClass word text := by
  constructor
  · rintro rfl
    exact ⟨isBare_trim text, standsIn_trim text⟩
  · rintro ⟨⟨first, last⟩, before, after, rfl, allBefore, allAfter⟩
    rw [trim, List.dropWhile_append_of_pos allBefore]
    cases word with
    | nil =>
        rw [List.nil_append, List.dropWhile_eq_nil_iff.mpr allAfter]
        rfl
    | cons head rest =>
        rw [dropWhile_of_head, trimEnd_append allAfter, trimEnd_of_last last]
        exact first

end BuildSteps.Text
