/-!
# Letter case

Names and levels are compared with words of ASCII letters after a change of case. A change of
case may turn a character outside ASCII into ASCII letters, or into several characters; the forms
that hold an ASCII letter are listed here. Every other character outside ASCII keeps a form
outside ASCII, and stands for itself.
-/

namespace BuildSteps.Text

/-- The characters outside ASCII whose capital form holds an ASCII letter, with that form. -/
def mixedCapitals : List (Char × List Char) :=
  [('ß', ['S', 'S']), ('ı', ['I']), ('ŉ', ['ʼ', 'N']), ('ſ', ['S']), ('ǰ', ['J', '\u030C']),
    ('ẖ', ['H', '\u0331']), ('ẗ', ['T', '\u0308']), ('ẘ', ['W', '\u030A']),
    ('ẙ', ['Y', '\u030A']), ('ẚ', ['A', 'ʾ']), ('ﬀ', ['F', 'F']), ('ﬁ', ['F', 'I']),
    ('ﬂ', ['F', 'L']), ('ﬃ', ['F', 'F', 'I']), ('ﬄ', ['F', 'F', 'L']), ('ﬅ', ['S', 'T']),
    ('ﬆ', ['S', 'T'])]

/-- The characters outside ASCII whose small form holds an ASCII letter, with that form. -/
def mixedSmalls : List (Char × List Char) :=
  [('İ', ['i', '\u0307']), ('\u212A', ['k'])]

/-- The capital form of a character, exact wherever it holds an ASCII letter. -/
def capital (char : Char) : List Char :=
  if char.toNat < 0x80 then [char.toUpper] else (mixedCapitals.lookup char).getD [char]

/-- The small form of a character, exact wherever it holds an ASCII letter. -/
def small (char : Char) : List Char :=
  if char.toNat < 0x80 then [char.toLower] else (mixedSmalls.lookup char).getD [char]

/-- A text in capitals. -/
def capitals (text : List Char) : List Char :=
  text.flatMap capital

/-- A text in small letters. -/
def smalls (text : List Char) : List Char :=
  text.flatMap small

end BuildSteps.Text
