/-!
# Blank characters

Two classes of characters are skipped at the ends of a text. White space is the Unicode property
White_Space, 25 characters. A blank is a white-space character or one of the four information
separators U+001C to U+001F; log levels and directory names are stripped of blanks, while numbers
are stripped of white space only.
-/

namespace BuildSteps.Text

/-- The closed ranges of code points with the property White_Space, ascending and apart. -/
def whiteSpaceRanges : List (Nat × Nat) :=
  [(0x09, 0x0D), (0x20, 0x20), (0x85, 0x85), (0xA0, 0xA0), (0x1680, 0x1680), (0x2000, 0x200A),
    (0x2028, 0x2029), (0x202F, 0x202F), (0x205F, 0x205F), (0x3000, 0x3000)]

/-- Whether a number lies in one of some closed ranges. -/
def inRanges (ranges : List (Nat × Nat)) (number : Nat) : Bool :=
  ranges.any fun range => decide (range.1 ≤ number) && decide (number ≤ range.2)

/-- Whether a character has the property White_Space. -/
def isWhiteSpace (char : Char) : Bool :=
  inRanges whiteSpaceRanges char.toNat

/-- Whether a character is white space or an information separator. -/
def isBlank (char : Char) : Bool :=
  isWhiteSpace char || inRanges [(0x1C, 0x1F)] char.toNat

/-- A text without the characters of a class at its end. -/
def trimEnd (inClass : Char → Bool) (text : List Char) : List Char :=
  (text.reverse.dropWhile inClass).reverse

/-- A text without the characters of a class at both ends. -/
def trim (inClass : Char → Bool) (text : List Char) : List Char :=
  trimEnd inClass (text.dropWhile inClass)

end BuildSteps.Text
