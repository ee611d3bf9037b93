/-!
# Rounding a quotient

A quotient of natural numbers is rounded to the nearest natural number; a quotient half way
between two goes to the even one.
-/

namespace BuildSteps.Decimal

/-- The natural number nearest to a quotient, the even one of two. -/
def roundQuotient (numerator denominator : Nat) : Nat :=
  let below := numerator / denominator
  let rest := numerator % denominator
  if 2 * rest < denominator then below
  else if denominator < 2 * rest then below + 1
  else if below % 2 = 0 then below
  else below + 1

end BuildSteps.Decimal
