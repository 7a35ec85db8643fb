import Chargeback.Json.Record
import Chargeback.Text.LowerCase

/-!
# Values of settings

A setting may be spelled in several ways: a number as a text, a truth value as a number, a text as
anything that has one. This module says what each kind of setting accepts. Whole numbers that do
not fit into 63 bits are treated as doubles.
-/

namespace Chargeback.Setting

/-- A number as its double, if it is a whole number of more than 63 bits. -/
def narrow : Json → Json
  | .int n => if n < Nat.pow 2 63 then .int n else .float (Json.floatOfInt n)
  | j => j

/-- The text of a setting. -/
def text? (j : Json) : Option String :=
  match narrow j with
  | .str s => some s
  | .bool b => some (if b then "true" else "false")
  | .int n => some (String.ofList (Json.intText n))
  | .float x => some (String.ofList (Scalar.plainFloat x))
  | _ => none

/-- The truth value that a text spells. -/
def truth? (s : String) : Option Bool :=
  let word := String.ofList (Text.lower s.toList)
  if ["true", "on", "yes"].contains word then some true
  else if ["false", "off", "no"].contains word then some false
  else none

/-- The whole number nearest to a double, a half away from zero, within 64 bits. What is negative or
no number counts as zero. -/
def natOfFloat (x : Float) : Nat :=
  match Number.Double.ofFloat x with
  | .finite false mantissa exponent =>
    let (num, den) := Number.Double.quotient mantissa exponent
    min ((2 * num + den) / (2 * den)) (UInt64.size - 1)
  | .infinite false => UInt64.size - 1
  | _ => 0

/-- The natural number of a setting, whatever its size. -/
def anyNat? (j : Json) : Option Nat :=
  match narrow j with
  | .int n => if 0 ≤ n then some n.toNat else none
  | .float x => some (natOfFloat x)
  | .bool b => some b.toNat
  | .str s =>
    match truth? s with
    | some b => some b.toNat
    | none => Number.readNatural? s.toList
  | _ => none

/-- The natural number of a setting, below a limit. -/
def natBelow? (limit : Nat) (j : Json) : Option Nat :=
  (anyNat? j).filter (· < limit)

/-- The double that a text spells, which need not be finite. -/
def floatOfText? (s : String) : Option Float :=
  match truth? s with
  | some b => some (if b then 1.0 else 0.0)
  | none => (Number.readSpelling? s.toList).map Number.Spelling.toFloat

/-- The double of a setting. -/
def float? (j : Json) : Option Float :=
  match narrow j with
  | .int n => some (Json.floatOfInt n)
  | .float x => some x
  | .bool b => some (if b then 1.0 else 0.0)
  | .str s => floatOfText? s
  | _ => none

/-- The value of a variable of the environment, whose text may spell a truth value, a whole number
or any other number. -/
def ofText (s : String) : Json :=
  let word := String.ofList (Text.lower s.toList)
  if word = "true" then .bool true
  else if word = "false" then .bool false
  else match wholeOfText? s.toList with
    | some n => .int n
    | none =>
      match Number.readSpelling? s.toList with
      | some spelling => .float spelling.toFloat
      | none => .str s
where
  /-- The whole number that a text spells, if it fits into 64 bits with its sign. -/
  wholeOfText? (s : List Char) : Option Int :=
    let (negative, digits) := Number.splitSign s
    if digits ≠ [] ∧ digits.all Char.isDigit then
      let magnitude : Int := Number.natOfDigits 0 digits
      let n := if negative then -magnitude else magnitude
      if -Nat.pow 2 63 ≤ n ∧ n < Nat.pow 2 63 then some n else none
    else none

end Chargeback.Setting
