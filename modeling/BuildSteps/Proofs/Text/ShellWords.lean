import BuildSteps.Invocation
import Mathlib.Data.List.Basic

/-!
# Command lines are read back

The line that shows an invocation is split into words by the quoting rules of a POSIX shell, and
the words are the argument vector. So the line of an invocation determines the invocation.

The splitter takes one character after another. It knows the words that are complete, the word that
it is inside of, and whether that word is inside quotation marks or behind a backslash. It is a
strict one: a character that starts an operator, an expansion, a pattern or a comment is refused
where quotation does not take that meaning away. Every word of a line is followed from the state
between two words to the state at its own end, so that neighbours can neither merge nor split.
-/

namespace BuildSteps.Text

/-! ### The splitter -/

/-- How the next character of a command line is read. -/
inductive Quotation where
  /-- Outside of quotation marks. -/
  | bare
  /-- Behind a backslash outside of quotation marks. -/
  | bareEscape
  /-- Between apostrophes. -/
  | single
  /-- Between double quotes. -/
  | double
  /-- Behind a backslash between double quotes. -/
  | doubleEscape
  deriving DecidableEq

/-- What is known about a command line up to some character of it. -/
structure ShellReader where
  /-- The words that are complete. -/
  words : List (List Char)
  /-- What has been read of the next word, unless none of it has. -/
  word : Option (List Char)
  quotation : Quotation
  deriving DecidableEq

/-- The characters that separate words where they are not quoted. -/
def shellBlanks : List Char := [' ', '\t']

/-- The characters that start an operator, an expansion, a pattern or a comment where they are not
quoted. -/
def shellSpecials : List Char :=
  ['\n', '|', '&', ';', '<', '>', '(', ')', '$', '`', '*', '?', '[', '#', '~']

namespace ShellReader

/-- Before the first character. -/
def start : ShellReader := ⟨[], none, .bare⟩

/-- The word up to here, which has then begun. -/
def begin (reader : ShellReader) (quotation : Quotation) : ShellReader :=
  { reader with word := some (reader.word.getD []), quotation }

/-- A character that belongs to the word. -/
def take (reader : ShellReader) (quotation : Quotation) (char : Char) : ShellReader :=
  { reader with word := some (reader.word.getD [] ++ [char]), quotation }

/-- The end of the word, if one has begun. -/
def separate (reader : ShellReader) : ShellReader :=
  { reader with words := reader.words ++ reader.word.toList, word := none }

/-- The next character is read. A backslash in front of the end of a line takes both away; between
double quotes it stands for itself unless the next character has a meaning there. -/
def step (reader : ShellReader) (char : Char) : Option ShellReader :=
  match reader.quotation with
  | .bare =>
    if char ∈ shellBlanks then some reader.separate
    else if char ∈ shellSpecials then none
    else if char = '\'' then some (reader.begin .single)
    else if char = '"' then some (reader.begin .double)
    else if char = '\\' then some { reader with quotation := .bareEscape }
    else some (reader.take .bare char)
  | .bareEscape =>
    if char = '\n' then some { reader with quotation := .bare }
    else some (reader.take .bare char)
  | .single =>
    if char = '\'' then some { reader with quotation := .bare }
    else some (reader.take .single char)
  | .double =>
    if char = '"' then some { reader with quotation := .bare }
    else if char = '\\' then some { reader with quotation := .doubleEscape }
    else if char = '$' ∨ char = '`' then none
    else some (reader.take .double char)
  | .doubleEscape =>
    if char = '\n' then some { reader with quotation := .double }
    else if char = '$' ∨ char = '`' ∨ char = '"' ∨ char = '\\' then
      some (reader.take .double char)
    else some ((reader.take .double '\\').take .double char)

/-- The words of a command line that ends here, unless a quotation is still open. -/
def finish? (reader : ShellReader) : Option (List (List Char)) :=
  if reader.quotation = .bare then some reader.separate.words else none

end ShellReader

/-- The words of a command line. -/
def shellWords? (line : List Char) : Option (List (List Char)) :=
  (line.foldlM ShellReader.step .start).bind ShellReader.finish?

example :
    shellWords? "ci \\a\\ b 'c\\'\"d e\\\"\\e\" ''".toList =
      some ["ci".toList, "a b".toList, "c\\d e\"\\e".toList, []] := by
  decide

example : shellWords? "echo $HOME".toList = none ∧ shellWords? "echo 'it".toList = none := by
  decide

/-! ### A word is read to its end -/

namespace ShellReader

variable {words : List (List Char)}

theorem not_safe_of_marked {char : Char}
    (marked : char ∈ shellBlanks ++ shellSpecials ++ ['\'', '"', '\\']) :
    isShellSafe char = false := by
  have refuted : (shellBlanks ++ shellSpecials ++ ['\'', '"', '\\']).all
      (!isShellSafe ·) = true := by decide
  simpa using List.all_eq_true.mp refuted char marked

theorem step_of_safe {char : Char} (safe : isShellSafe char = true)
    (word : Option (List Char)) :
    step ⟨words, word, .bare⟩ char = some ⟨words, some (word.getD [] ++ [char]), .bare⟩ := by
  have other : char ∉ shellBlanks ++ shellSpecials ++ ['\'', '"', '\\'] := by
    intro marked
    rw [not_safe_of_marked marked] at safe
    cases safe
  simp only [List.mem_append, List.mem_cons, List.not_mem_nil, or_false, not_or] at other
  obtain ⟨⟨noBlank, noSpecial⟩, noApostrophe, noQuote, noBackslash⟩ := other
  simp [step, take, noBlank, noSpecial, noApostrophe, noQuote, noBackslash]

/-- Safe characters outside quotes go to the word as they are. -/
theorem read_safe {rest : List Char} (safe : rest.all isShellSafe = true) (front : List Char) :
    rest.foldlM step ⟨words, some front, .bare⟩ = some ⟨words, some (front ++ rest), .bare⟩ := by
  induction rest generalizing front with
  | nil => simp
  | cons char rest ih =>
      rw [List.all_cons, Bool.and_eq_true] at safe
      rw [List.foldlM_cons, step_of_safe safe.1]
      simpa using ih safe.2 (front ++ [char])

/-- An apostrophe is spliced in from a quotation of its own, and the quotation goes on behind
it. -/
theorem read_shellQuotedChar (front : List Char) (char : Char) :
    (shellQuotedChar char).foldlM step ⟨words, some front, .single⟩ =
      some ⟨words, some (front ++ [char]), .single⟩ := by
  by_cases apostrophe : char = '\''
  · subst apostrophe
    simp [shellQuotedChar, step, begin, take, shellBlanks, shellSpecials]
  · simp [shellQuotedChar, step, take, apostrophe]

/-- Characters between single quotes go to the word, an apostrophe by leaving the quotes for it.
-/
theorem read_quoted (front rest : List Char) :
    (rest.flatMap shellQuotedChar).foldlM step ⟨words, some front, .single⟩ =
      some ⟨words, some (front ++ rest), .single⟩ := by
  induction rest generalizing front with
  | nil => simp
  | cons char rest ih =>
      rw [List.flatMap_cons, List.foldlM_append, read_shellQuotedChar]
      simpa using ih (front ++ [char])

/-- A word as it is quoted is read as that word. -/
theorem read_shellWord (word : List Char) :
    (shellWord word).foldlM step ⟨words, none, .bare⟩ = some ⟨words, some word, .bare⟩ := by
  unfold shellWord
  split
  next safe =>
    cases word with
    | nil => exact absurd rfl safe.1
    | cons char rest =>
        have each := safe.2
        rw [List.all_cons, Bool.and_eq_true] at each
        rw [List.foldlM_cons, step_of_safe each.1]
        simpa using read_safe each.2 [char]
  next =>
    have opened : step ⟨words, none, .bare⟩ '\'' = some ⟨words, some [], .single⟩ := by
      simp [step, begin, shellBlanks, shellSpecials]
    have closed : step ⟨words, some word, .single⟩ '\'' = some ⟨words, some word, .bare⟩ := by
      simp [step]
    rw [List.cons_append, List.foldlM_cons, opened]
    simp [List.foldlM_append, read_quoted, closed]

/-! ### A line is read to its end -/

/-- Quoted words with blanks between them are read as those words. -/
theorem read_shellLine (words line : List (List Char)) :
    ((shellLine line).foldlM step ⟨words, none, .bare⟩).bind finish? = some (words ++ line) := by
  induction line generalizing words with
  | nil => simp [shellLine, finish?, separate]
  | cons word rest ih =>
      cases rest with
      | nil => simp [shellLine, read_shellWord, finish?, separate]
      | cons next others =>
          have joined : shellLine (word :: next :: others) =
              shellWord word ++ ' ' :: shellLine (next :: others) := by
            simp [shellLine, List.intercalate_cons_cons]
          have separated : step ⟨words, some word, .bare⟩ ' ' =
              some ⟨words ++ [word], none, .bare⟩ := by
            simp [step, separate, shellBlanks]
          rw [joined, List.foldlM_append, read_shellWord]
          simpa [separated] using ih (words ++ [word])

end ShellReader

theorem shellWords?_shellLine (words : List (List Char)) :
    shellWords? (shellLine words) = some words :=
  ShellReader.read_shellLine [] words

end BuildSteps.Text

namespace BuildSteps.Invocation

theorem shellWords?_text (invocation : Invocation) :
    Text.shellWords? invocation.text.toList = some (invocation.argv.map String.toList) := by
  simp [text, Text.shellWords?_shellLine]

theorem argv_injective : Function.Injective argv := by
  rintro ⟨program, arguments⟩ ⟨otherProgram, otherArguments⟩ same
  obtain ⟨rfl, rfl⟩ := List.cons.inj same
  rfl

theorem text_injective : Function.Injective text := by
  intro left right same
  have read := shellWords?_text left
  rw [same, shellWords?_text right, Option.some.injEq] at read
  exact argv_injective (List.map_injective_iff.mpr (fun _ _ => String.toList_injective) read).symm

/-- A shell that reads the text of an invocation finds its argument vector. So invocations with the
same text, or with the same argument vector, are the same. -/
theorem text_unambiguous (left right : Invocation) :
    Text.shellWords? left.text.toList = some (left.argv.map String.toList) ∧
      (left = right ↔ left.argv = right.argv) ∧
        (left.argv = right.argv ↔ left.text = right.text) := by
  refine ⟨shellWords?_text left, argv_injective.eq_iff.symm, ?_⟩
  rw [argv_injective.eq_iff, text_injective.eq_iff]

end BuildSteps.Invocation
