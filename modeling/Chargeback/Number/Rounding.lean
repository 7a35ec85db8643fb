/-!
# Rounding quotients

Every amount that the reports round is an exact quotient of natural numbers first: a double is a
mantissa over a power of two, and a decimal place is a power of ten. So one function rounds them
all. A half goes to the even neighbour, which makes the result independent of the sign.
-/

namespace Chargeback.Number

/-- The whole number nearest to `num / den`; of two equally near ones, the even one. -/
def roundHalfEven (num den : Nat) : Nat :=
  let quotient := num / den
  let excess := 2 * (num % den)
  if excess < den then quotient
  else if den < excess then quotient + 1
  else quotient + quotient % 2

end Chargeback.Number
