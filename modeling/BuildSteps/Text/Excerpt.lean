/-!
# Excerpts

A value that is shown in a message is shortened when its text takes more than fifty bytes in
UTF-8: it keeps what fits into the first 25 bytes and into the last 24, around three dots.
-/

namespace BuildSteps.Text

/-- The number of bytes of a text in UTF-8. -/
def byteSize : List Char → Nat
  | [] => 0
  | char :: rest => char.utf8Size + byteSize rest

/-- The longest beginning of a text that fits into a number of bytes. -/
def takeBytes : Nat → List Char → List Char
  | _, [] => []
  | budget, char :: rest =>
    if char.utf8Size ≤ budget then char :: takeBytes (budget - char.utf8Size) rest else []

/-- The longest end of a text that fits into a number of bytes. -/
def takeBytesEnd (budget : Nat) (text : List Char) : List Char :=
  (takeBytes budget text.reverse).reverse

/-- A text of at most fifty bytes as it is, and a longer one by its beginning and its end. -/
def excerpt (text : List Char) : List Char :=
  if byteSize text ≤ 50 then text
  else takeBytes 25 text ++ ['.', '.', '.'] ++ takeBytesEnd 24 text

end BuildSteps.Text
