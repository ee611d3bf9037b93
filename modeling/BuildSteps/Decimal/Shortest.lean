import BuildSteps.Decimal.Binary

/-!
# The fewest digits that read back

Among the decimals that round to a given double, the shortest are those with the fewest digits,
and of these the nearest to the double is taken, the even one of two at the same distance. The
search goes through the grids of one digit, two digits and so on up to seventeen; on each grid
only the two neighbours of the double can be the answer.
-/

namespace BuildSteps.Decimal

/-- A decimal digits · 10^exponent. -/
structure Scientific where
  digits : Nat
  exponent : Int
  deriving Repr, DecidableEq

/-- Compares left · 10^ten with right · 2^two. -/
def compareScaled (left : Nat) (ten : Int) (right : Nat) (two : Int) : Ordering :=
  compare (left * Nat.pow 10 ten.toNat * Nat.pow 2 (-two).toNat)
    (right * Nat.pow 2 two.toNat * Nat.pow 10 (-ten).toNat)

/-- Whether a decimal lies among the reals that round to a magnitude, to nearest and to even. -/
def Magnitude.readsBack (magnitude : Magnitude) (decimal : Scientific) : Bool :=
  let lower := 4 * magnitude.significand - (if magnitude.narrowBelow then 1 else 2)
  let upper := 4 * magnitude.significand + 2
  let closed := decide (magnitude.significand % 2 = 0)
  let fromLower := compareScaled decimal.digits decimal.exponent lower (magnitude.exponent - 2)
  let toUpper := compareScaled decimal.digits decimal.exponent upper (magnitude.exponent - 2)
  (fromLower == .gt || (closed && fromLower == .eq)) &&
    (toUpper == .lt || (closed && toUpper == .eq))

/-- The least exponent such that the magnitude is below that power of ten. -/
def Magnitude.decimalScale (magnitude : Magnitude) : Int :=
  let bits := (magnitude.significand.log2 : Int) + magnitude.exponent
  let estimate := Int.fdiv (bits * 30103) 100000
  let isBound (exponent : Int) : Bool :=
    compareScaled 1 exponent magnitude.significand magnitude.exponent == .gt
  ([estimate - 1, estimate, estimate + 1, estimate + 2].find? isBound).getD (estimate + 3)

/-- The decimal on the grid of 10^exponent that reads back and is nearest to the magnitude. -/
def Magnitude.onGrid? (magnitude : Magnitude) (exponent : Int) : Option Scientific :=
  let (numerator, denominator) := magnitude.ratio
  let below :=
    numerator * Nat.pow 10 (-exponent).toNat / (denominator * Nat.pow 10 exponent.toNat)
  let low : Scientific := ⟨below, exponent⟩
  let high : Scientific := ⟨below + 1, exponent⟩
  match magnitude.readsBack low, magnitude.readsBack high with
  | false, false => none
  | true, false => some low
  | false, true => some high
  | true, true =>
    match compareScaled (2 * below + 1) exponent (2 * magnitude.significand) magnitude.exponent with
    | .gt => some low
    | .lt => some high
    | .eq => some (if below % 2 = 0 then low else high)

/-- The magnitude itself as a decimal. -/
def Magnitude.exact (magnitude : Magnitude) : Scientific :=
  if 0 ≤ magnitude.exponent then ⟨magnitude.significand * Nat.pow 2 magnitude.exponent.toNat, 0⟩
  else ⟨magnitude.significand * Nat.pow 5 (-magnitude.exponent).toNat, magnitude.exponent⟩

/-- The nearest of the shortest decimals that read back, for a magnitude above zero. -/
def Magnitude.shortest (magnitude : Magnitude) : Scientific :=
  let scale := magnitude.decimalScale
  ((List.range 17).findSome? fun index =>
    magnitude.onGrid? (scale - (index + 1 : Nat))).getD magnitude.exact

end BuildSteps.Decimal
