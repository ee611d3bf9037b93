/-!
# Command lines in shell syntax

A command is shown as a line that a POSIX shell reads back as the same words. A word of safe
characters stands for itself. Any other word stands between apostrophes, where every character is
literal; an apostrophe inside it closes the quotation, stands between double quotes, and opens
the quotation again. The empty word is written as two apostrophes.
-/

namespace BuildSteps.Text

/-- Whether a character may stand outside quotation marks. -/
def isShellSafe (char : Char) : Bool :=
  char.isAlphanum || char ∈ ['_', '@', '%', '+', '=', ':', ',', '.', '/', '-']

/-- A character as it stands between apostrophes. -/
def shellQuotedChar (char : Char) : List Char :=
  if char = '\'' then ['\'', '"', '\'', '"', '\''] else [char]

/-- A word in shell syntax. -/
def shellWord (word : List Char) : List Char :=
  if word ≠ [] ∧ word.all isShellSafe then word
  else '\'' :: word.flatMap shellQuotedChar ++ ['\'']

/-- Words in shell syntax, separated by single spaces. -/
def shellLine (words : List (List Char)) : List Char :=
  List.intercalate [' '] (words.map shellWord)

end BuildSteps.Text
