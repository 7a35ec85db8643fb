import Chargeback.Number.Reader
import Chargeback.Text.Search

/-!
# Scalars

Capacities, prices and shares are computed over any type of scalars. The reports use doubles; exact
rational numbers are scalars too, and over them the laws of arithmetic hold that rounding breaks.
Every rule of pricing and matching is therefore written once, for both.
-/

namespace Chargeback

open Number

/-- A type of numbers that amounts are computed in and written as text. -/
class Scalar (α : Type) extends Add α, Mul α, Div α, BEq α where
  /-- The scalar of a natural number. -/
  ofNat : Nat → α
  /-- The scalar nearest to a decimal. -/
  ofDecimal : Decimal → α
  /-- Whether a scalar is a number, and not the result of an overflow or of a division by zero. -/
  isFinite : α → Bool
  /-- The value of a scalar that is a whole number below `10 ^ 15` in magnitude. -/
  whole? : α → Option Int
  /-- The text with all places that a scalar has, never with an exponent. -/
  plain : α → List Char
  /-- The text with a fixed number of places. -/
  fixed : Nat → α → List Char
  /-- The magnitude of a scalar. -/
  abs : α → α
  /-- Whether one scalar is below another. -/
  less : α → α → Bool
  /-- Whether one scalar is not above another. -/
  lessOrEqual : α → α → Bool

namespace Scalar

/-- The magnitude below which whole numbers are written without a point: `10 ^ 15`. -/
def wholeLimit : Nat := Nat.pow 10 15

/-- The whole number that a double is, if it is one below the limit. -/
def wholeFloat? (x : Float) : Option Int :=
  match Double.ofFloat x with
  | .finite negative mantissa exponent =>
    let (num, den) := Double.quotient mantissa exponent
    if num % den = 0 ∧ num / den < wholeLimit then
      some (if negative then -(num / den : Nat) else (num / den : Nat))
    else none
  | _ => none

/-- The word for an infinity. -/
def infinityText (negative : Bool) : List Char := Decimal.signed negative "inf".toList

/-- The text of a double in positions, with the fewest digits that read back. Of two equally short
texts the larger is taken. -/
def plainFloat (x : Float) : List Char :=
  match Double.ofFloat x with
  | .finite negative mantissa exponent =>
    Decimal.signed negative ((shortest .up negative mantissa exponent).positional [])
  | .infinite negative => infinityText negative
  | .notANumber => "NaN".toList

/-- The text of a double with a fixed number of places, rounded from its exact value. -/
def fixedFloat (places : Nat) (x : Float) : List Char :=
  match Double.ofFloat x with
  | .finite negative mantissa exponent =>
    let (num, den) := Double.quotient mantissa exponent
    Decimal.signed negative (fixedPlaces places num den)
  | .infinite negative => infinityText negative
  | .notANumber => "NaN".toList

/-- Doubles, which the reports use. -/
instance : Scalar Float where
  ofNat n := Float.ofNat n
  ofDecimal := Decimal.toFloat
  isFinite x := x.isFinite
  whole? := wholeFloat?
  plain := plainFloat
  fixed := fixedFloat
  abs := Float.abs
  less x y := decide (x < y)
  lessOrEqual x y := decide (x ≤ y)

/-- The text of a quotient in lowest terms. -/
def plainRat (x : Rat) : List Char :=
  Decimal.signed (decide (x.num < 0))
    (digitsOf x.num.natAbs ++ if x.den = 1 then [] else '/' :: digitsOf x.den)

/-- Exact rational numbers, over which nothing is rounded but the text. -/
instance : Scalar Rat where
  ofNat n := n
  ofDecimal := Decimal.toRat
  isFinite _ := true
  whole? x := if x.den = 1 ∧ x.num.natAbs < wholeLimit then some x.num else none
  plain := plainRat
  fixed places x := Decimal.signed (decide (x.num < 0)) (fixedPlaces places x.num.natAbs x.den)
  abs x := if x < 0 then -x else x
  less x y := decide (x < y)
  lessOrEqual x y := decide (x ≤ y)

variable {α : Type} [Scalar α]

/-- The scalar zero. -/
def zero : α := ofNat 0

/-- A list of scalars added from the left, starting with zero. -/
def sum (l : List α) : α := l.foldl (· + ·) zero

/-- The finite number that a text spells, blanks around it aside. -/
def parse? (text : String) : Option α :=
  match readDecimal? (Text.trimChars text.toList) with
  | some d =>
    let x : α := ofDecimal d
    if isFinite x then some x else none
  | none => none

end Scalar

end Chargeback
