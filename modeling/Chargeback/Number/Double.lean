import Chargeback.Number.Rounding

/-!
# Doubles as exact numbers

A finite double is `± mantissa * 2 ^ exponent`, with a mantissa below `2 ^ 53` and an exponent of
`-1074` or more. `Double.ofFloat` takes a `Float` apart into these numbers, and `nearest` goes the
other way: it gives the double nearest to a quotient, halves to the even mantissa, and an infinity
when the quotient is too large. All text for numbers is made from, and read into, these exact
values.
-/

namespace Chargeback.Number

/-- A double, taken apart. -/
inductive Double where
  /-- No number at all, such as the quotient of two zeros. -/
  | notANumber
  /-- Too large in magnitude to be held. -/
  | infinite (negative : Bool)
  /-- The number `mantissa * 2 ^ exponent`, or its negative. -/
  | finite (negative : Bool) (mantissa : Nat) (exponent : Int)
deriving DecidableEq, Repr

/-- The exponent of the smallest positive double, and of zero. -/
def leastExponent : Int := -1074

/-- The number of bits below the leading bit of a normal mantissa. -/
def fractionBits : Nat := 52

/-- The bits of positive infinity; every finite magnitude has smaller bits. -/
def infinityBits : Nat := 2047 * Nat.pow 2 fractionBits

namespace Double

/-- The double with the given bits. The biased exponent 0 marks a mantissa without a leading one,
and the largest one marks infinities and what is no number. -/
def ofBits (bits : Nat) : Double :=
  let negative := bits / Nat.pow 2 63 % 2 = 1
  let biased := bits / Nat.pow 2 fractionBits % 2048
  let fraction := bits % Nat.pow 2 fractionBits
  if biased = 2047 then
    if fraction = 0 then infinite negative else notANumber
  else if biased = 0 then finite negative fraction leastExponent
  else finite negative (fraction + Nat.pow 2 fractionBits) (biased - 1 + leastExponent)

/-- Takes a `Float` apart. -/
def ofFloat (x : Float) : Double := ofBits x.toBits.toNat

/-- The numerator and denominator of `mantissa * 2 ^ exponent`. -/
def quotient (mantissa : Nat) (exponent : Int) : Nat × Nat :=
  (mantissa * Nat.pow 2 exponent.toNat, Nat.pow 2 (-exponent).toNat)

end Double

/-- The whole number at or below the binary logarithm of `num / den`, both positive. -/
def floorLog2 (num den : Nat) : Int :=
  let guess : Int := (num.log2 : Int) - den.log2
  if num * Nat.pow 2 (-guess).toNat < den * Nat.pow 2 guess.toNat then guess - 1 else guess

/-- The bits of the double nearest to `num / den`. With mantissa `m` and exponent `e` they are
`(e - leastExponent) * 2 ^ 52 + m`: a mantissa that rounds up to `2 ^ 53` carries into the
exponent by itself, and every magnitude beyond the largest double ends at infinity. -/
def nearestBits (num den : Nat) : Nat :=
  if num = 0 then 0
  else
    let exponent := max (floorLog2 num den - fractionBits) leastExponent
    let mantissa :=
      roundHalfEven (num * Nat.pow 2 (-exponent).toNat) (den * Nat.pow 2 exponent.toNat)
    min ((exponent - leastExponent).toNat * Nat.pow 2 fractionBits + mantissa) infinityBits

/-- The double nearest to `num / den`, or to its negative. -/
def nearest (negative : Bool) (num den : Nat) : Float :=
  Float.ofBits (UInt64.ofNat (nearestBits num den + if negative then Nat.pow 2 63 else 0))

end Chargeback.Number
