/-!
# Doubles as exact numbers

A double is not a number, infinite, or finite; a finite double is a sign and a magnitude
m · 2^q with natural m. All decimal text is computed from m and q by exact integer arithmetic.
-/

namespace BuildSteps.Decimal

/-- A magnitude significand · 2^exponent. -/
structure Magnitude where
  significand : Nat
  exponent : Int
  /-- Whether the next smaller double is at half the distance of the next greater one. -/
  narrowBelow : Bool
  deriving Repr, DecidableEq

/-- What a double stands for. -/
inductive Reading where
  | notANumber
  | infinite (negative : Bool)
  | finite (negative : Bool) (magnitude : Magnitude)
  deriving Repr, DecidableEq

/-- What the 64 bits of a double stand for. -/
def Reading.ofBits (bits : Nat) : Reading :=
  let negative : Bool := decide (Nat.pow 2 63 ≤ bits)
  let biased : Nat := bits / Nat.pow 2 52 % Nat.pow 2 11
  let fraction : Nat := bits % Nat.pow 2 52
  if biased = 2047 then
    if fraction = 0 then .infinite negative else .notANumber
  else if biased = 0 then
    .finite negative ⟨fraction, -1074, false⟩
  else
    .finite negative
      ⟨Nat.pow 2 52 + fraction, (Int.ofNat biased) - 1075, decide (fraction = 0 ∧ 1 < biased)⟩

/-- What a double stands for. -/
def reading (value : Float) : Reading :=
  .ofBits value.toBits.toNat

/-- The magnitude as a fraction: numerator and denominator. -/
def Magnitude.ratio (magnitude : Magnitude) : Nat × Nat :=
  (magnitude.significand * Nat.pow 2 magnitude.exponent.toNat,
    Nat.pow 2 (-magnitude.exponent).toNat)

/-- The whole number that a magnitude is, if it is one. -/
def Magnitude.whole? (magnitude : Magnitude) : Option Nat :=
  let (numerator, denominator) := magnitude.ratio
  if numerator % denominator = 0 then some (numerator / denominator) else none

/-- The integer of a sign and a size. -/
def signed (negative : Bool) (size : Nat) : Int :=
  if negative then -(size : Int) else size

end BuildSteps.Decimal
