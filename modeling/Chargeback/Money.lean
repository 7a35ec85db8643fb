import Chargeback.Scalar

/-!
# Numbers in reports

How numbers are shown to people: capacities the way they would be typed, amounts with two places and
the sign of their currency, and fractions as percentages. The minus sign of an amount stands between
the sign of the currency and the digits.
-/

namespace Chargeback

open Number

variable {α : Type} [Scalar α]

namespace Scalar

/-- A number the way a person would type it: whole numbers have no point and no sign of zero. -/
def display (x : α) : String :=
  match whole? x with
  | some n => String.ofList (Decimal.signed (decide (n < 0)) (digitsOf n.natAbs))
  | none => String.ofList (plain x)

/-- An amount with two places. -/
def money (x : α) : String := String.ofList (fixed 2 x)

end Scalar

/-! ## Currencies and percentages -/

namespace Money

/-- An amount of a currency. Four currencies have signs of their own; every other code, as it is
given, stands behind the amount. -/
def inCurrency (code : String) (amount : α) : String :=
  let digits := Scalar.money amount
  if code = "USD" then "$" ++ digits
  else if code = "AUD" then "A$" ++ digits
  else if code = "EUR" then "€" ++ digits
  else if code = "GBP" then "£" ++ digits
  else digits ++ " " ++ code

/-- A fraction as a percentage with the given number of places. -/
def percent (places : Nat) (fraction : α) : String :=
  String.ofList (Scalar.fixed places (fraction * Scalar.ofNat 100) ++ ['%'])

end Money

end Chargeback
