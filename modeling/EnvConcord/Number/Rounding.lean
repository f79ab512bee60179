/-!
# Rounding to integers

A ratio is rounded to the nearest integer; a half goes to the even neighbour.
-/

namespace EnvConcord.Number

/-- The integer nearest to a ratio; of two, the even one. -/
def roundHalfEven (numerator denominator : Nat) : Nat :=
  let quotient := numerator / denominator
  let twice := 2 * (numerator % denominator)
  if twice < denominator then quotient
  else if denominator < twice then quotient + 1
  else quotient + quotient % 2

end EnvConcord.Number
