/-!
# Hexadecimal digits

Escapes write a code point with a fixed number of hexadecimal digits, in small letters.
-/

namespace BuildSteps.Text

/-- The hexadecimal digit of a number below sixteen. -/
def hexDigit (number : Nat) : Char :=
  if number < 10 then Char.ofNat (48 + number) else Char.ofNat (87 + number)

/-- The last hexadecimal digits of a number, the most significant first. -/
def hexDigits : Nat → Nat → List Char
  | 0, _ => []
  | width + 1, number => hexDigits width (number / 16) ++ [hexDigit (number % 16)]

end BuildSteps.Text
