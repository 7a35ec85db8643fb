import Chargeback.Number.Decimal

/-!
# The fewest digits that read back

Of all decimals that a reader rounds to a given double, the shortest has the fewest digits, and
among those it is the nearest to the double. They are looked for on ever finer grids: on the grid
of `10 ^ k` only the two neighbours of the double can be the nearest, and if any point of the grid
lies in the interval that rounds to the double, one of the two neighbours does. Seventeen digits
always suffice.
-/

namespace Chargeback.Number

/-- Which of two decimals of the same length that are equally near to a double is written. -/
inductive Tie where
  /-- The one whose last digit is even. -/
  | even
  /-- The larger one. -/
  | up
deriving DecidableEq, Repr

/-- The reals that round to a double: all between `low` and `high`, in units of
`2 ^ (exponent - 2)`, and the ends themselves when `closed`. The double itself is `centre`. -/
structure RoundingInterval where
  /-- Four times the mantissa. -/
  centre : Nat
  /-- Half a step below; half of that under a power of two, where doubles lie closer below. -/
  low : Nat
  /-- Half a step above. -/
  high : Nat
  /-- Ties go to even mantissas, so these own their ends. -/
  closed : Bool

/-- The interval of `mantissa * 2 ^ exponent`. -/
def RoundingInterval.of (mantissa : Nat) (exponent : Int) : RoundingInterval where
  centre := 4 * mantissa
  low :=
    if mantissa = Nat.pow 2 fractionBits ∧ leastExponent < exponent then 4 * mantissa - 1
    else 4 * mantissa - 2
  high := 4 * mantissa + 2
  closed := mantissa % 2 = 0

/-- The number of digits in front of the point of `num / den`; for a number below one it counts
down by one for each zero behind the point. -/
def leadingPlace (num den : Nat) : Int :=
  if den ≤ num then digitCount (num / den)
  else 1 - digitCount ((den - 1) / num)

/-- The shortest decimal with exactly `count` digits' worth of grid, if the interval holds one.
`unit` is `2 ^ (exponent - 2)` as a quotient and `place` the leading place of the double. -/
def RoundingInterval.onGrid (i : RoundingInterval) (unit : Nat × Nat) (place : Int) (tie : Tie)
    (count : Nat) : Option (Nat × Int) :=
  let grid := place - count
  -- Everything is compared after multiplication by the denominators of unit and grid.
  let step := unit.2 * Nat.pow 10 grid.toNat
  let scale := unit.1 * Nat.pow 10 (-grid).toNat
  let centre := i.centre * scale
  let low := i.low * scale
  let high := i.high * scale
  let below := centre / step
  let above := below + 1
  let holds (d : Nat) : Bool :=
    if i.closed then low ≤ d * step && d * step ≤ high else low < d * step && d * step < high
  let pick : Option Nat :=
    match holds below, holds above with
    | false, false => none
    | true, false => some below
    | false, true => some above
    | true, true =>
      let down := centre - below * step
      let up := above * step - centre
      if down < up then some below
      else if up < down then some above
      else match tie with
        | .up => some above
        | .even => some (below + below % 2)
  pick.map (·, grid)

/-- Moves the zeros at the end of the digits into the exponent. -/
def dropZeros : Nat → Nat × Int → Nat × Int
  | 0, d => d
  | fuel + 1, (digits, exponent) =>
    if digits ≠ 0 ∧ digits % 10 = 0 then dropZeros fuel (digits / 10, exponent + 1)
    else (digits, exponent)

/-- The shortest decimal that reads back as `± mantissa * 2 ^ exponent`. -/
def shortest (tie : Tie) (negative : Bool) (mantissa : Nat) (exponent : Int) : Decimal :=
  if mantissa = 0 then ⟨negative, 0, 0⟩
  else
    let value := Double.quotient mantissa exponent
    let unit := Double.quotient 1 (exponent - 2)
    let place := leadingPlace value.1 value.2
    let interval := RoundingInterval.of mantissa exponent
    let found := (List.range 17).findSome? fun n => interval.onGrid unit place tie (n + 1)
    let (digits, power) := dropZeros 18 (found.getD (0, 0))
    ⟨negative, digits, power⟩

end Chargeback.Number
