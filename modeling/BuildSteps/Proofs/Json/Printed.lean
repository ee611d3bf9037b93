import BuildSteps.Proofs.Json.Lexemes

/-!
# Records are visible

A record holds visible characters of ASCII and spaces only, whatever the texts in it hold. Every
other character of a text is written as an escape, and the other parts of a record are marks, words
and numbers.

Visible texts are closed under the ways in which a record is put together. So it is enough to look
at the smallest parts, and then to follow the recursion that writes the record.
-/

namespace BuildSteps

namespace Text

/-- A text of characters from the space to the tilde. -/
def IsVisible (text : List Char) : Prop :=
  ∀ char ∈ text, 0x20 ≤ char.toNat ∧ char.toNat ≤ 0x7E

instance (text : List Char) : Decidable (IsVisible text) :=
  List.decidableBAll (fun char : Char => 0x20 ≤ char.toNat ∧ char.toNat ≤ 0x7E) text

section Closure

variable {first second text : List Char} {char : Char}

theorem IsVisible.subset (visible : IsVisible text) (part : first ⊆ text) :
    IsVisible first :=
  fun char occurs => visible char (part occurs)

theorem IsVisible.append (left : IsVisible first) (right : IsVisible second) :
    IsVisible (first ++ second) := by
  intro char occurs
  rcases List.mem_append.mp occurs with before | behind
  · exact left char before
  · exact right char behind

theorem IsVisible.cons (head : IsVisible [char]) (tail : IsVisible text) :
    IsVisible (char :: text) :=
  head.append tail

theorem isVisible_of_digital (digital : ∀ digit ∈ text, digit.isDigit = true) :
    IsVisible text := by
  intro digit occurs
  have bounds := Json.toNat_of_isDigit (digital digit occurs)
  omega

theorem isVisible_replicate_zero (count : Nat) : IsVisible (List.replicate count '0') := by
  intro char occurs
  rcases List.mem_replicate.mp occurs with ⟨-, rfl⟩
  decide

theorem isVisible_flatMap {Item : Type} {items : List Item} {written : Item → List Char}
    (each : ∀ item ∈ items, IsVisible (written item)) : IsVisible (items.flatMap written) := by
  intro char occurs
  rcases List.mem_flatMap.mp occurs with ⟨item, listed, inside⟩
  exact each item listed char inside

theorem isVisible_intercalate {pieces : List (List Char)} {mark : List Char}
    (marks : IsVisible mark) (each : ∀ piece ∈ pieces, IsVisible piece) :
    IsVisible (List.intercalate mark pieces) := by
  induction pieces with
  | nil => exact fun char impossible => absurd impossible List.not_mem_nil
  | cons piece rest ih =>
      have head := each piece (List.mem_cons_self ..)
      have tail := ih fun later occurs => each later (List.mem_cons_of_mem _ occurs)
      cases rest with
      | nil =>
          rw [List.intercalate_singleton]
          exact head
      | cons next others =>
          rw [List.intercalate_cons_cons]
          exact (head.append marks).append tail

end Closure

end Text

open Text (IsVisible)

/-! ### Numbers -/

namespace Decimal

variable {digits : List Char}

theorem isVisible_digitsOf (number : Nat) : IsVisible (digitsOf number) :=
  Text.isVisible_of_digital (Json.all_isDigit_toDigits number)

theorem isVisible_withSign (negative : Bool) {text : List Char} (visible : IsVisible text) :
    IsVisible (withSign negative text) := by
  cases negative with
  | false => exact visible
  | true => exact IsVisible.cons (by decide) visible

theorem isVisible_pointed (visible : IsVisible digits) : IsVisible (pointed digits) := by
  match digits with
  | [] | [_] => exact visible
  | digit :: next :: rest =>
      have head : IsVisible [digit] := visible.subset (by simp)
      have tail : IsVisible (next :: rest) := visible.subset (List.subset_cons_self ..)
      exact head.cons (IsVisible.cons (by decide) tail)

theorem isVisible_exponentText (exponent : Int) : IsVisible (exponentText exponent) := by
  have padded := (Text.isVisible_replicate_zero (2 - (digitsOf exponent.natAbs).length)).append
    (isVisible_digitsOf exponent.natAbs)
  rw [exponentText, padLeft]
  split
  · exact IsVisible.cons (by decide) padded
  · exact IsVisible.cons (by decide) padded

/-- Digits are laid out in visible characters, with and without an exponent. -/
theorem isVisible_layout (visible : IsVisible digits) (exponent : Int) :
    IsVisible (layout digits exponent) := by
  simp only [layout]
  split
  · exact (isVisible_pointed visible).append
      (IsVisible.cons (by decide) (isVisible_exponentText exponent))
  · split
    · exact (IsVisible.cons (by decide) (IsVisible.cons (by decide)
        (Text.isVisible_replicate_zero _))).append visible
    · have whole := visible.subset (List.take_subset (exponent.toNat + 1) digits)
      have fraction := visible.subset (List.drop_subset (exponent.toNat + 1) digits)
      apply (whole.append (Text.isVisible_replicate_zero _)).append
      apply IsVisible.cons (by decide)
      split
      · decide
      · exact fraction

theorem isVisible_dropTrailingZeros (visible : IsVisible digits) :
    IsVisible (dropTrailingZeros digits) := by
  intro char occurs
  rw [dropTrailingZeros, List.mem_reverse] at occurs
  have kept := (List.dropWhile_sublist _).subset occurs
  exact visible char (List.mem_reverse.mp kept)

/-- Floating point values are written in visible characters. -/
theorem isVisible_shortestText (value : Float) :
    IsVisible (shortestText recordSpelling value) := by
  simp only [shortestText]
  split
  · decide
  · exact isVisible_withSign _ (by decide)
  · apply isVisible_withSign
    simp only [Magnitude.text]
    split
    · decide
    · exact isVisible_layout (isVisible_dropTrailingZeros (isVisible_digitsOf _)) _

end Decimal

namespace Value

theorem isVisible_toString (number : Int) : IsVisible (toString number).toList := by
  have digits := Text.isVisible_of_digital (Json.all_isDigit_toDigits number.natAbs)
  rw [Json.toList_toString, Text.withSign]
  split
  · exact IsVisible.cons (by decide) digits
  · exact digits

/-! ### Texts -/

theorem isVisible_hexDigits (width number : Nat) : IsVisible (Text.hexDigits width number) := by
  have digits : ∀ digit : Fin 16, IsVisible [Text.hexDigit digit] := by decide
  induction width generalizing number with
  | zero => exact fun char impossible => absurd impossible List.not_mem_nil
  | succ width ih =>
      exact (ih (number / 16)).append (digits ⟨number % 16, Nat.mod_lt number (by decide)⟩)

theorem isVisible_unitEscape (unit : Nat) : IsVisible (unitEscape unit) :=
  IsVisible.cons (by decide) (IsVisible.cons (by decide) (isVisible_hexDigits 4 unit))

/-- Whatever a character is, it is written by visible ones. -/
theorem isVisible_recordChar (char : Char) : IsVisible (recordChar char) := by
  unfold recordChar
  iterate 7
    split
    · decide
  split
  · rename_i plain
    intro same occurs
    rw [List.mem_singleton] at occurs
    subst occurs
    omega
  · rw [Json.unitEscapes_eq]
    exact Text.isVisible_flatMap fun unit _ => isVisible_unitEscape unit

theorem isVisible_recordText (content : List Char) : IsVisible (recordText content) := by
  have inside := Text.isVisible_flatMap fun char (_ : char ∈ content) =>
    isVisible_recordChar char
  exact (IsVisible.cons (by decide) inside).append (by decide)

theorem isVisible_recordBool (truth : Bool) : IsVisible (recordBool truth) := by
  cases truth <;> decide

/-! ### Values -/

theorem isVisible_arrayText {items : List (List Char)}
    (each : ∀ item ∈ items, IsVisible item) : IsVisible (arrayText items) := by
  have inside := Text.isVisible_intercalate (show IsVisible [',', ' '] by decide) each
  exact (IsVisible.cons (by decide) inside).append (by decide)

theorem isVisible_memberText (name : List Char) {value : List Char}
    (visible : IsVisible value) : IsVisible (memberText name value) :=
  (isVisible_recordText name).append
    (IsVisible.cons (by decide) (IsVisible.cons (by decide) visible))

theorem isVisible_objectText {members : List (List Char)}
    (each : ∀ member ∈ members, IsVisible member) : IsVisible (objectText members) := by
  have inside := Text.isVisible_intercalate (show IsVisible [',', ' '] by decide) each
  exact (IsVisible.cons (by decide) inside).append (by decide)

theorem recordItems_cons_eq_ok {item : Value} {items : List Value} {pieces : List (List Char)}
    (recorded : recordItems (item :: items) = .ok pieces) :
    ∃ written later, item.record = .ok written ∧ recordItems items = .ok later ∧
      pieces = written :: later := by
  rw [recordItems] at recorded
  cases first : item.record with
  | error reason => simp [first] at recorded
  | ok written =>
      rw [first] at recorded
      cases rest : recordItems items with
      | error reason =>
          rw [rest] at recorded
          cases recorded
      | ok later =>
          rw [rest] at recorded
          cases recorded
          exact ⟨written, later, rfl, rfl, rfl⟩

theorem recordEntries_cons_eq_ok {key value : Value} {entries : List (Value × Value)}
    {pieces : List (List Char)} (recorded : recordEntries ((key, value) :: entries) = .ok pieces) :
    ∃ name written later, keyText key = .ok name ∧ value.record = .ok written ∧
      recordEntries entries = .ok later ∧ pieces = memberText name written :: later := by
  rw [recordEntries] at recorded
  cases named : keyText key with
  | error reason => simp [named] at recorded
  | ok name =>
      cases first : value.record with
      | error reason => simp [named, first] at recorded
      | ok written =>
          rw [named, first] at recorded
          cases rest : recordEntries entries with
          | error reason =>
              rw [rest] at recorded
              cases recorded
          | ok later =>
              rw [rest] at recorded
              cases recorded
              exact ⟨name, written, later, rfl, rfl, rfl, rfl⟩

theorem map_eq_ok {pieces : Except Unencodable (List (List Char))}
    {join : List (List Char) → List Char} {written : List Char}
    (joined : pieces.map join = .ok written) :
    ∃ parts, pieces = .ok parts ∧ written = join parts := by
  cases pieces with
  | error reason => cases joined
  | ok parts =>
      cases joined
      exact ⟨parts, rfl, rfl⟩

mutual

/-- The written form of a value is visible. -/
theorem isVisible_record (value : Value) {written : List Char}
    (recorded : value.record = .ok written) : IsVisible written := by
  cases value with
  | null =>
      cases recorded
      decide
  | bool truth =>
      cases recorded
      exact isVisible_recordBool truth
  | int number =>
      rw [record] at recorded
      rw [(recordInteger_eq_ok recorded).2]
      exact isVisible_toString number
  | float number =>
      cases recorded
      exact Decimal.isVisible_shortestText number
  | text content =>
      cases recorded
      exact isVisible_recordText content.toList
  | list items | tuple items =>
      rw [record] at recorded
      rcases map_eq_ok recorded with ⟨pieces, texts, rfl⟩
      exact isVisible_arrayText (isVisible_recordItems items texts)
  | dict entries =>
      rw [record] at recorded
      rcases map_eq_ok recorded with ⟨pieces, texts, rfl⟩
      exact isVisible_objectText (isVisible_recordEntries entries texts)
  | bytes _ | path _ | set _ => cases recorded
termination_by structural value

/-- Items are written in visible characters. -/
theorem isVisible_recordItems (items : List Value) {pieces : List (List Char)}
    (recorded : recordItems items = .ok pieces) : ∀ piece ∈ pieces, IsVisible piece := by
  cases items with
  | nil =>
      cases recorded
      simp
  | cons item others =>
      rcases recordItems_cons_eq_ok recorded with ⟨written, later, first, rest, rfl⟩
      intro piece occurs
      rcases List.mem_cons.mp occurs with rfl | behind
      · exact isVisible_record item first
      · exact isVisible_recordItems others rest piece behind
termination_by structural items

/-- Entries are written in visible characters. -/
theorem isVisible_recordEntries (entries : List (Value × Value)) {pieces : List (List Char)}
    (recorded : recordEntries entries = .ok pieces) : ∀ piece ∈ pieces, IsVisible piece := by
  cases entries with
  | nil =>
      cases recorded
      simp
  | cons entry others =>
      rcases entry with ⟨key, value⟩
      rcases recordEntries_cons_eq_ok recorded with ⟨name, written, later, -, first, rest, rfl⟩
      intro piece occurs
      rcases List.mem_cons.mp occurs with rfl | behind
      · exact isVisible_memberText name (isVisible_record value first)
      · exact isVisible_recordEntries others rest piece behind
termination_by structural entries

end

end Value

end BuildSteps
