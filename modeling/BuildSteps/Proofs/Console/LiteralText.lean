import BuildSteps.Proofs.Console.EscapedText
import Mathlib.Data.List.Infix

/-!
# Which texts are shown literally

Escaping keeps a text from being read as tags, but a console does more with the plain pieces of
markup: it drops a backslash in front of a bracket that starts no tag, replaces the codes of known
emoji, and leaves out characters that have no place on a line. A text is shown as it stands if and
only if none of this applies to any of its segments.

None of the three can undo what another has done. An emoji may have as many characters as its code,
but no emoji has colons: in a measure where colons count for more, each of the three makes a piece
lighter or leaves it as it is.
-/

namespace BuildSteps.Console

/-- A code is known if its name, without an ending for one of the forms, is that of an emoji. -/
def IsKnownCode (name : List Char) : Prop :=
  ∃ emoji, emojis.lookup (emojiName (splitForm name).1) = some emoji

/-- The names of the codes in a text, read from left to right. -/
def codeNames : List Char → List (List Char)
  | [] => []
  | char :: behind =>
    if char = ':' then
      match _found : code? behind with
      | some (name, rest) => name :: codeNames rest
      | none => codeNames behind
    else codeNames behind
termination_by text => text.length
decreasing_by
  · have := length_of_code? _found
    simp only [List.length_cons]
    omega
  · simp
  · simp

/-- A literal text has no backslash in front of a bracket, no code of a known emoji, and no
character without a place on a line. -/
structure IsLiteral (text : List Char) : Prop where
  unescaped : ¬ ['\\', '['] <:+: text
  uncoded : ∀ name ∈ codeNames text, ¬ IsKnownCode name
  placed : ∀ char ∈ text, isLineControl char = false

/-- What is shown of a text that is escaped in markup: all of its segments, each as it is shown. -/
def rendered (text : List Char) : List Char :=
  (segments text).flatMap shownPiece

section Weights

/-- The weight of a text: the number of its characters, where a colon counts for five. -/
def weight (text : List Char) : Nat :=
  text.length + 4 * text.count ':'

/-- The greatest weight of an emoji, which is less than that of any code. -/
def emojiWeight : Nat := 8

theorem weight_append (first second : List Char) :
    weight (first ++ second) = weight first + weight second := by
  simp only [weight, List.length_append, List.count_append]
  omega

theorem weight_le_of_sublist {part whole : List Char} (sublist : part.Sublist whole) :
    weight part ≤ weight whole :=
  Nat.add_le_add sublist.length_le (Nat.mul_le_mul_left 4 (sublist.count_le ':'))

theorem eq_of_sublist_of_weight {part whole : List Char} (sublist : part.Sublist whole)
    (same : weight whole ≤ weight part) : part = whole := by
  have counted := sublist.count_le ':'
  have shorter := sublist.length_le
  simp only [weight] at same
  exact sublist.eq_of_length (by omega)

theorem weight_singleEmojis : ∀ entry ∈ singleEmojis, weight entry.2 ≤ emojiWeight := by
  have parts : ∀ part ∈ emojiParts, ∀ entry ∈ part, weight entry.2 ≤ emojiWeight := by
    decide +kernel
  intro entry listed
  rcases List.mem_flatten.mp listed with ⟨part, isPart, occurs⟩
  exact parts part isPart entry occurs

theorem weight_tonedEmojis : ∀ entry ∈ tonedEmojis, weight entry.2 ≤ emojiWeight ∧
    ∀ tone ∈ skinTones, weight (withTone tone.2 entry.2) ≤ emojiWeight := by
  decide +kernel

theorem weight_flags : (∀ entry ∈ countries, weight (flag entry.2) ≤ emojiWeight) ∧
    (∀ entry ∈ otherFlags, weight (flag entry.2) ≤ emojiWeight) ∧
    ∀ entry ∈ countryParts, weight (partFlag entry.2) ≤ emojiWeight := by
  decide +kernel

theorem weight_singleton_le (char : Char) : weight [char] ≤ emojiWeight := by
  have once : [char].count ':' ≤ [char].length := List.count_le_length
  simp only [List.length_singleton] at once
  simp only [weight, emojiWeight, List.length_singleton]
  omega

/-- Every known emoji, in whichever of its forms, is lighter than a code. -/
theorem weight_le_of_mem_emojis {entry : String × List Char} (listed : entry ∈ emojis) :
    weight entry.2 ≤ emojiWeight := by
  simp only [emojis, List.mem_append, List.mem_flatMap, List.mem_map] at listed
  rcases listed with (((((single | toned) | ⟨plain, toned, form⟩) | ⟨country, known, named⟩) |
    ⟨other, known, rfl⟩) | ⟨part, known, rfl⟩) | ⟨letter, known, named⟩
  · exact weight_singleEmojis entry single
  · exact (weight_tonedEmojis entry toned).1
  · rcases List.mem_map.mp form with ⟨tone, isTone, rfl⟩
    exact (weight_tonedEmojis plain toned).2 tone isTone
  · have light := weight_flags.1 country known
    simp only [namedFlags, List.mem_cons, List.not_mem_nil, or_false] at named
    rcases named with rfl | rfl <;> exact light
  · exact weight_flags.2.1 other known
  · exact weight_flags.2.2 part known
  · rcases List.mem_map.mp named with ⟨front, -, rfl⟩
    exact weight_singleton_le _

end Weights

section Brackets

variable {text : List Char}

/-- Unescaping only leaves characters out. -/
theorem unescapeBrackets_sublist (text : List Char) : (unescapeBrackets text).Sublist text := by
  induction text using unescapeBrackets.induct with
  | case1 => exact List.Sublist.refl _
  | case2 char => exact List.Sublist.refl _
  | case3 rest ih => exact (ih.cons_cons '[').cons '\\'
  | case4 char next rest notEscape ih =>
      rw [unescapeBrackets]
      · exact ih.cons_cons char
      · exact notEscape

/-- A text is as it was after unescaping iff no backslash stands in front of a bracket. -/
theorem unescapeBrackets_eq_self_iff : unescapeBrackets text = text ↔ ¬ ['\\', '['] <:+: text := by
  induction text using unescapeBrackets.induct with
  | case1 => simp [unescapeBrackets]
  | case2 char => simp [unescapeBrackets, List.infix_cons_iff]
  | case3 rest ih => simp [unescapeBrackets, List.infix_cons_iff]
  | case4 char next rest notEscape ih =>
      have front : ¬ ['\\', '['] <+: char :: next :: rest := by
        rw [List.cons_prefix_cons, List.cons_prefix_cons]
        rintro ⟨rfl, rfl, -⟩
        exact notEscape rfl rfl
      have later : ['\\', '['] <:+: char :: next :: rest ↔ ['\\', '['] <:+: next :: rest := by
        rw [List.infix_cons_iff, or_iff_right front]
      rw [unescapeBrackets, List.cons.injEq, ih, later]
      · simp
      · exact notEscape

end Brackets

section Codes

variable {text behind name rest : List Char}

theorem eq_of_code? (found : code? behind = some (name, rest)) : behind = name ++ ':' :: rest := by
  have whole : behind.takeWhile isCodeChar ++ behind.dropWhile isCodeChar = behind :=
    List.takeWhile_append_dropWhile
  unfold code? at found
  split at found
  · rename_i tail ends
    cases found
    rw [← ends, whole]
  · cases found

theorem isKnownCode_of_mem {emoji : List Char}
    (listed : (emojiName (splitForm name).1, emoji) ∈ emojis) : IsKnownCode name := by
  cases found : emojis.lookup (emojiName (splitForm name).1) with
  | some other => exact ⟨other, found⟩
  | none =>
      rw [List.lookup_eq_none_iff] at found
      exact absurd rfl (bne_iff_ne.mp (found _ listed))

theorem expandCode_of_unknown (unknown : ¬ IsKnownCode name) :
    expandCode name = ':' :: (name ++ [':']) := by
  simp only [expandCode]
  split
  · rename_i emoji found
    exact absurd ⟨emoji, found⟩ unknown
  · rfl

/-- The code of a known emoji is replaced by something lighter than any code. -/
theorem weight_expandCode_of_known (known : IsKnownCode name) : weight (expandCode name) < 10 := by
  rcases known with ⟨emoji, found⟩
  have light : weight emoji ≤ emojiWeight := by
    rw [List.lookup_eq_some_iff] at found
    rcases found with ⟨front, back, whole, -⟩
    have listed : (emojiName (splitForm name).1, emoji) ∈ emojis := by simp [whole]
    exact weight_le_of_mem_emojis listed
  have selector : weight (splitForm name).2 ≤ 1 := by
    have forms : ∀ form ∈ emojiForms, weight [form.2] ≤ 1 := by decide
    unfold splitForm
    split
    · rename_i form chosen
      exact forms form (List.mem_of_find?_eq_some chosen)
    · exact Nat.zero_le 1
  simp only [expandCode, found, weight_append, emojiWeight] at light ⊢
  omega

/-- A code weighs as much as its name and ten more. -/
theorem weight_code (name rest : List Char) :
    weight (':' :: (name ++ ':' :: rest)) = 10 + weight name + weight rest := by
  simp only [weight, List.length_cons, List.length_append, List.count_cons_self, List.count_append]
  omega

theorem expandCodes_colon_some (found : code? behind = some (name, rest)) :
    expandCodes (':' :: behind) = expandCode name ++ expandCodes rest := by
  rw [expandCodes, if_pos rfl]
  split
  · rename_i other others same
    rw [found] at same
    cases same
    rfl
  · rename_i none
    rw [found] at none
    cases none

theorem expandCodes_cons_of_none {char : Char} (other : char = ':' → code? behind = none) :
    expandCodes (char :: behind) = char :: expandCodes behind := by
  rw [expandCodes]
  split
  · rename_i colon
    split
    · rename_i found
      rw [other colon] at found
      cases found
    · rfl
  · rfl

theorem codeNames_colon_some (found : code? behind = some (name, rest)) :
    codeNames (':' :: behind) = name :: codeNames rest := by
  rw [codeNames, if_pos rfl]
  split
  · rename_i other others same
    rw [found] at same
    cases same
    rfl
  · rename_i none
    rw [found] at none
    cases none

theorem codeNames_cons_of_none {char : Char} (other : char = ':' → code? behind = none) :
    codeNames (char :: behind) = codeNames behind := by
  rw [codeNames]
  split
  · rename_i colon
    split
    · rename_i found
      rw [other colon] at found
      cases found
    · rfl
  · rfl

/-- A front without colons has no codes. -/
theorem codeNames_append {front : List Char} (uncoded : ∀ char ∈ front, char ≠ ':')
    (rest : List Char) : codeNames (front ++ rest) = codeNames rest := by
  induction front with
  | nil => rfl
  | cons char others ih =>
      rw [List.forall_mem_cons] at uncoded
      rw [List.cons_append, codeNames_cons_of_none (fun colon => absurd colon uncoded.1),
        ih uncoded.2]

/-- Induction over the codes of a text. -/
@[elab_as_elim]
theorem code_induction {motive : List Char → Prop} (text : List Char) (nil : motive [])
    (code : ∀ behind name rest, code? behind = some (name, rest) → motive rest →
      motive (':' :: behind))
    (cons : ∀ char behind, (char = ':' → code? behind = none) → motive behind →
      motive (char :: behind)) : motive text := by
  induction text using codeNames.induct with
  | case1 => exact nil
  | case2 behind name rest found ih => exact code behind name rest found ih
  | case3 behind none ih => exact cons ':' behind (fun _ => none) ih
  | case4 char behind other ih => exact cons char behind (fun colon => absurd colon other) ih

/-- Colons are idle if a blank or nothing follows each of them. -/
def HasIdleColons (text : List Char) : Prop :=
  ∀ before behind, text = before ++ ':' :: behind → behind.head?.all Text.isBlank = true

/-- Colons of a part are idle if those of the whole are. -/
theorem HasIdleColons.of_infix (idle : HasIdleColons text) {part : List Char}
    (inside : part <:+: text) : HasIdleColons part := by
  rcases inside with ⟨front, back, rfl⟩
  rintro before behind rfl
  have followed := idle (front ++ before) (behind ++ back) (by simp)
  cases behind with
  | nil => rfl
  | cons next others => simpa using followed

/-- Idle colons begin no code. -/
theorem HasIdleColons.codeNames_eq_nil (idle : HasIdleColons text) : codeNames text = [] := by
  induction text using code_induction with
  | nil => rw [codeNames]
  | code behind name rest found ih =>
      have followed := idle [] behind rfl
      cases behind with
      | nil => cases found
      | cons next others =>
          have blank : Text.isBlank next = true := by simpa using followed
          have notCode : isCodeChar next = false := by simp [isCodeChar, blank]
          have notColon : next ≠ ':' := by
            rintro rfl
            exact absurd blank (by decide)
          simp [code?, notCode, notColon] at found
  | cons char behind other ih =>
      rw [codeNames_cons_of_none other]
      exact ih (idle.of_infix ⟨[char], [], by simp⟩)

/-- A text gets lighter by each known code that is replaced, and stays as it is without one. -/
theorem expandCodes_cases (text : List Char) :
    (expandCodes text = text ∧ ∀ name ∈ codeNames text, ¬ IsKnownCode name) ∨
      (weight (expandCodes text) < weight text ∧ ∃ name ∈ codeNames text, IsKnownCode name) := by
  induction text using code_induction with
  | nil => simp [expandCodes, codeNames]
  | code behind name rest found ih =>
      have whole := eq_of_code? found
      rw [expandCodes_colon_some found, codeNames_colon_some found]
      by_cases known : IsKnownCode name
      · have replaced := weight_expandCode_of_known known
        have later : weight (expandCodes rest) ≤ weight rest := by
          rcases ih with ⟨same, -⟩ | ⟨lighter, -⟩
          · rw [same]
          · exact Nat.le_of_lt lighter
        refine Or.inr ⟨?_, name, List.mem_cons_self .., known⟩
        rw [whole, weight_code, weight_append]
        omega
      · rw [expandCode_of_unknown known, whole, List.forall_mem_cons]
        rcases ih with ⟨same, uncoded⟩ | ⟨lighter, other, listed, isKnown⟩
        · refine Or.inl ⟨?_, known, uncoded⟩
          rw [same]
          simp
        · refine Or.inr ⟨?_, other, List.mem_cons_of_mem _ listed, isKnown⟩
          have code := weight_code name []
          rw [weight_code, weight_append, code]
          simpa [weight] using lighter
  | cons char behind other ih =>
      rw [expandCodes_cons_of_none other, codeNames_cons_of_none other]
      rcases ih with ⟨same, uncoded⟩ | ⟨lighter, isKnown⟩
      · exact Or.inl ⟨by rw [same], uncoded⟩
      · refine Or.inr ⟨?_, isKnown⟩
        rw [← List.singleton_append, ← List.singleton_append (l := behind), weight_append,
          weight_append]
        omega

theorem weight_expandCodes_le (text : List Char) : weight (expandCodes text) ≤ weight text := by
  rcases expandCodes_cases text with ⟨same, -⟩ | ⟨lighter, -⟩
  · rw [same]
  · exact Nat.le_of_lt lighter

/-- A text is as it was after the replacement iff none of its codes is known. -/
theorem expandCodes_eq_self_iff :
    expandCodes text = text ↔ ∀ name ∈ codeNames text, ¬ IsKnownCode name := by
  rcases expandCodes_cases text with ⟨same, uncoded⟩ | ⟨lighter, name, listed, known⟩
  · exact ⟨fun _ => uncoded, fun _ => same⟩
  · constructor
    · intro same
      rw [same] at lighter
      exact absurd lighter (Nat.lt_irrefl _)
    · exact fun uncoded => absurd known (uncoded name listed)

end Codes

section Rendered

variable {text : List Char}

theorem weight_shownPiece_le (text : List Char) : weight (shownPiece text) ≤ weight text := by
  have filtered := weight_le_of_sublist (List.filter_sublist (p := fun char => !isLineControl char)
    (l := expandCodes (unescapeBrackets text)))
  have expanded := weight_expandCodes_le (unescapeBrackets text)
  have unescaped := weight_le_of_sublist (unescapeBrackets_sublist text)
  rw [shownPiece]
  omega

/-- A piece that does not get lighter is literal, since nothing gets heavier on the way. -/
theorem isLiteral_of_weight (kept : weight text ≤ weight (shownPiece text)) : IsLiteral text := by
  have leavesOut := List.filter_sublist (p := fun char => !isLineControl char)
    (l := expandCodes (unescapeBrackets text))
  have filtered := weight_le_of_sublist leavesOut
  have expanded := weight_expandCodes_le (unescapeBrackets text)
  rw [shownPiece] at kept
  have noEscape : unescapeBrackets text = text :=
    eq_of_sublist_of_weight (unescapeBrackets_sublist text) (by omega)
  rw [noEscape] at kept leavesOut filtered expanded
  have noControl := List.filter_eq_self.mp (eq_of_sublist_of_weight leavesOut (by omega))
  rcases expandCodes_cases text with ⟨same, uncoded⟩ | ⟨lighter, -⟩
  · rw [same] at noControl
    exact ⟨unescapeBrackets_eq_self_iff.mp noEscape, uncoded, by simpa using noControl⟩
  · omega

/-- A plain piece is shown as it stands iff it is literal. -/
theorem shownPiece_eq_self_iff : shownPiece text = text ↔ IsLiteral text := by
  constructor
  · intro same
    exact isLiteral_of_weight (by rw [same])
  · rintro ⟨unescaped, uncoded, placed⟩
    rw [shownPiece, unescapeBrackets_eq_self_iff.mpr unescaped, expandCodes_eq_self_iff.mpr uncoded,
      List.filter_eq_self]
    simpa using placed

/-- Pieces are shown as they stand together iff each is literal, since no piece grows when it is
shown. -/
theorem flatMap_shownPiece_eq_iff (pieces : List (List Char)) :
    pieces.flatMap shownPiece = pieces.flatten ↔ ∀ piece ∈ pieces, IsLiteral piece := by
  have lighter : ∀ pieces : List (List Char),
      weight (pieces.flatMap shownPiece) ≤ weight pieces.flatten := by
    intro pieces
    induction pieces with
    | nil => exact Nat.le_refl _
    | cons piece rest ih =>
        have first := weight_shownPiece_le piece
        simp only [List.flatMap_cons, List.flatten_cons, weight_append]
        omega
  induction pieces with
  | nil => simp
  | cons piece rest ih =>
      rw [List.forall_mem_cons, List.flatMap_cons, List.flatten_cons]
      constructor
      · intro same
        have weights := congrArg weight same
        have others := lighter rest
        simp only [weight_append] at weights
        have literal : IsLiteral piece := isLiteral_of_weight (by omega)
        rw [shownPiece_eq_self_iff.mpr literal, List.append_cancel_left_eq] at same
        exact ⟨literal, ih.mp same⟩
      · rintro ⟨literal, literalRest⟩
        rw [shownPiece_eq_self_iff.mpr literal, ih.mpr literalRest]

/-- An escaped text is shown as it stands if and only if all of its segments are literal. -/
theorem rendered_eq_self_iff :
    rendered text = text ↔ ∀ segment ∈ segments text, IsLiteral segment := by
  rw [← flatMap_shownPiece_eq_iff, flatten_segments, rendered]

/-- Brackets alone are no reason against showing a text as it stands. -/
theorem rendered_of_idle (noBackslash : '\\' ∉ text) (idle : HasIdleColons text)
    (placed : ∀ char ∈ text, isLineControl char = false) : rendered text = text := by
  rw [rendered_eq_self_iff]
  intro segment occurs
  have inside : segment <:+: text := by
    have part := List.infix_of_mem_flatten occurs
    rwa [flatten_segments] at part
  refine ⟨?_, ?_, ?_⟩
  · intro escape
    exact noBackslash (inside.subset (escape.subset (List.mem_cons_self ..)))
  · simp [(idle.of_infix inside).codeNames_eq_nil]
  · exact fun char found => placed char (inside.subset found)

/-- A harmless character is no colon and no backslash, and it has a place on a line. -/
def isHarmless (char : Char) : Bool :=
  char ≠ ':' && char ≠ '\\' && !isLineControl char

theorem ne_of_isHarmless {char : Char} (harmless : isHarmless char = true) :
    char ≠ ':' ∧ char ≠ '\\' ∧ isLineControl char = false := by
  simpa [isHarmless, and_assoc] using harmless

/-- Harmless text with one idle colon is shown as it stands. -/
theorem rendered_of_harmless {before behind : List Char}
    (harmlessBefore : before.all isHarmless = true)
    (harmlessBehind : behind.all isHarmless = true) (blank : behind.head?.all Text.isBlank = true) :
    rendered (before ++ ':' :: behind) = before ++ ':' :: behind := by
  rw [List.all_eq_true] at harmlessBefore harmlessBehind
  have parts : ∀ char ∈ before ++ ':' :: behind, isHarmless char = true ∨ char = ':' := by
    intro char occurs
    rw [List.mem_append, List.mem_cons] at occurs
    rcases occurs with first | colon | last
    · exact Or.inl (harmlessBefore char first)
    · exact Or.inr colon
    · exact Or.inl (harmlessBehind char last)
  apply rendered_of_idle
  · intro occurs
    rcases parts _ occurs with harmless | colon
    · exact (ne_of_isHarmless harmless).2.1 rfl
    · exact absurd colon (by decide)
  · intro front back split
    have onlyBefore : ':' ∉ before :=
      fun occurs => (ne_of_isHarmless (harmlessBefore _ occurs)).1 rfl
    have onlyBehind : ':' ∉ behind :=
      fun occurs => (ne_of_isHarmless (harmlessBehind _ occurs)).1 rfl
    have same := (List.append_cons_inj_of_notMem onlyBefore onlyBehind).mp split
    rwa [← same.2.2]
  · intro char occurs
    rcases parts char occurs with harmless | rfl
    · exact (ne_of_isHarmless harmless).2.2
    · decide

/-- The first code of a text without tags is replaced if it is known. -/
theorem rendered_ne_of_code {before behind name rest : List Char}
    (untagged : ∀ char ∈ before ++ ':' :: behind, char ≠ '[' ∧ char ≠ '\\')
    (uncoded : ∀ char ∈ before, char ≠ ':') (found : code? behind = some (name, rest))
    (known : IsKnownCode name) : rendered (before ++ ':' :: behind) ≠ before ++ ':' :: behind := by
  intro same
  rw [rendered_eq_self_iff, segments_untagged (isUntagged_of_ne untagged []),
    List.forall_mem_singleton] at same
  apply same.uncoded name _ known
  rw [codeNames_append uncoded, codeNames_colon_some found]
  exact List.mem_cons_self ..

/-- Plain pieces are shown one by one, whatever tags are open. -/
theorem shownPieces_plain (opened texts : List (List Char)) (rest : List Piece) :
    shownPieces opened (texts.flatMap plainPiece ++ rest) =
      (shownPieces opened rest).map (texts.flatMap shownPiece ++ ·) := by
  induction texts with
  | nil => simp
  | cons text others ih =>
      by_cases empty : text = []
      · have nothing : shownPiece [] = [] := by simp [shownPiece, unescapeBrackets, expandCodes]
        simp [empty, plainPiece, nothing, ih]
      · simp [plainPiece, empty, shownPieces, ih, Function.comp_def]

theorem closing_eq : "[/red]".toList = tagged 0 "/red".toList [] := by decide

theorem isTagName_closing : IsTagName "/red".toList :=
  ⟨by decide, List.all_eq_true.mp (by decide)⟩

/-- Between the tags of a style an escaped text is read as its segments. -/
theorem markupPieces_red_escapeTags (last : text.getLast? ≠ some '\\') :
    markupPieces ("[red]".toList ++ (escapeTags text ++ "[/red]".toList)) =
      .tag "red".toList :: ((segments text).flatMap plainPiece ++ [.tag "/red".toList]) := by
  have ended : markupPieces [] = [] := by
    simp [markupPieces, splitAtTag, plainPiece]
  rw [markupPieces_red, closing_eq, markupPieces_escapeTags isTagName_closing last, ended]

theorem shownText?_red_escapeTags (last : text.getLast? ≠ some '\\') :
    shownText? ("[red]".toList ++ (escapeTags text ++ "[/red]".toList)) = some (rendered text) := by
  have opened : applyTag [] "red".toList = some ["red".toList] := by decide
  have closed : applyTag ["red".toList] "/red".toList = some [] := by decide
  rw [shownText?, markupPieces_red_escapeTags last]
  simp only [shownPieces, opened, shownPieces_plain, closed, Option.map_some, List.append_nil,
    rendered]

end Rendered

end BuildSteps.Console
