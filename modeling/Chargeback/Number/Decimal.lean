import Chargeback.Number.Double

/-!
# Decimal numbers

`Decimal` is what a number looks like in text: a sign, digits and a power of ten. This module holds
its reading into a double, and two ways to write it: in positions, or with an exponent.
-/

namespace Chargeback.Number

/-- The number `digits * 10 ^ exponent`, or its negative. A zero has a sign too. -/
structure Decimal where
  /-- Whether a minus sign stands in front. -/
  negative : Bool
  /-- All digits, read as one natural number. -/
  digits : Nat
  /-- The power of ten that the digits are multiplied by. -/
  exponent : Int
deriving DecidableEq, Repr

/-- The digits of a natural number, most significant first; a zero has one digit. -/
def digitsOf (n : Nat) : List Char := Nat.toDigits 10 n

/-- The text of a natural number. -/
def natText (n : Nat) : String := String.ofList (digitsOf n)

/-- How many decimal digits a natural number has. -/
def digitCount (n : Nat) : Nat := (digitsOf n).length

/-- The value of a run of digits that follows digits worth `start`. -/
def natOfDigits (start : Nat) (digits : List Char) : Nat :=
  digits.foldl (fun n c => 10 * n + (c.toNat - '0'.toNat)) start

namespace Decimal

/-- The double nearest to a decimal. Exponents far outside the range of doubles are cut first: they
give an infinity or a zero either way, and their power of ten need not be computed. -/
def toFloat (d : Decimal) : Float :=
  let low : Int := -(digitCount d.digits : Int) - 400
  let exponent := max low (min 400 d.exponent)
  nearest d.negative (d.digits * Nat.pow 10 exponent.toNat) (Nat.pow 10 (-exponent).toNat)

/-- The exact value of a decimal. -/
def toRat (d : Decimal) : Rat :=
  let magnitude : Rat :=
    ((d.digits * Nat.pow 10 d.exponent.toNat : Nat) : Rat) /
      (Nat.pow 10 (-d.exponent).toNat : Rat)
  if d.negative then -magnitude else magnitude

/-- Puts the sign in front of the text of a magnitude. -/
def signed (negative : Bool) (magnitude : List Char) : List Char :=
  if negative then '-' :: magnitude else magnitude

/-- The position of the point from the left of the digits: `0.ddd * 10 ^ point`. -/
def point (d : Decimal) : Int := digitCount d.digits + d.exponent

/-- A magnitude in positions, with as many places as it needs and a lone zero in front of the point
where no digit stands there. `whole` is written after a number without places. -/
def positional (d : Decimal) (whole : List Char) : List Char :=
  let digits := digitsOf d.digits
  if 0 ≤ d.exponent then digits ++ List.replicate d.exponent.toNat '0' ++ whole
  else if 0 < d.point then
    digits.take d.point.toNat ++ '.' :: digits.drop d.point.toNat
  else '0' :: '.' :: (List.replicate (-d.point).toNat '0' ++ digits)

/-- A magnitude with one digit in front of the point and an exponent that always has a sign. -/
def scientific (d : Decimal) : List Char :=
  let exponent := d.point - 1
  let mantissa := match digitsOf d.digits with
    | [] => []
    | [lead] => [lead]
    | lead :: rest => lead :: '.' :: rest
  mantissa ++ 'e' :: (if exponent < 0 then '-' else '+') :: digitsOf exponent.natAbs

end Decimal

/-- The text of `num / den` with a fixed number of places, a half going to the even neighbour. -/
def fixedPlaces (places num den : Nat) : List Char :=
  let digits := digitsOf (roundHalfEven (num * Nat.pow 10 places) den)
  let padded := List.replicate (places + 1 - digits.length) '0' ++ digits
  if places = 0 then padded
  else padded.take (padded.length - places) ++ '.' :: padded.drop (padded.length - places)

end Chargeback.Number
