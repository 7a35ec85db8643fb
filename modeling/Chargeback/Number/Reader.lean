import Chargeback.Number.Shortest

/-!
# Reading numbers

The spellings of a number in free text: an optional sign, digits with at most one point among or
around them, and an optional exponent. Next to these there are words for infinity and for what is
no number; whoever needs a finite number asks for a decimal and never sees them.
-/

namespace Chargeback.Number

/-- What the text of a number can say. -/
inductive Spelling where
  /-- Digits. -/
  | decimal (d : Decimal)
  /-- The word for infinity, with its sign. -/
  | infinite (negative : Bool)
  /-- The word for no number. -/
  | notANumber
deriving DecidableEq, Repr

/-- Splits a text after the digits that it starts with. -/
def splitDigits (s : List Char) : List Char × List Char :=
  (s.takeWhile Char.isDigit, s.dropWhile Char.isDigit)

/-- Splits a sign off a text; without one the number is not negative. -/
def splitSign : List Char → Bool × List Char
  | '+' :: rest => (false, rest)
  | '-' :: rest => (true, rest)
  | s => (false, s)

/-- The exponent that a whole text spells: nothing, or an `e`, an optional sign and digits. -/
def readExponent? : List Char → Option Int
  | [] => some 0
  | mark :: rest =>
    if mark = 'e' ∨ mark = 'E' then
      let (negative, digits) := splitSign rest
      if digits ≠ [] ∧ digits.all Char.isDigit then
        let magnitude : Int := natOfDigits 0 digits
        some (if negative then -magnitude else magnitude)
      else none
    else none

/-- The digits behind a point, if the text goes on with one, and what follows them. -/
def splitPlaces : List Char → List Char × List Char
  | '.' :: rest => splitDigits rest
  | s => ([], s)

/-- The decimal that a whole text without sign spells. At least one digit stands before or behind
the point. -/
def readMagnitude? (negative : Bool) (s : List Char) : Option Decimal :=
  let (whole, afterWhole) := splitDigits s
  let (places, afterPlaces) := splitPlaces afterWhole
  if whole = [] ∧ places = [] then none
  else (readExponent? afterPlaces).map fun exponent =>
    ⟨negative, natOfDigits (natOfDigits 0 whole) places, exponent - places.length⟩

/-- The decimal that a whole text spells. -/
def readDecimal? (s : List Char) : Option Decimal :=
  let (negative, rest) := splitSign s
  readMagnitude? negative rest

/-- The natural number that a whole text spells: digits, perhaps behind a plus sign. -/
def readNatural? (s : List Char) : Option Nat :=
  let digits := if s.head? = some '+' then s.drop 1 else s
  if digits ≠ [] ∧ digits.all Char.isDigit then some (natOfDigits 0 digits) else none

/-- What a whole text says about a number; the words ignore case. -/
def readSpelling? (s : List Char) : Option Spelling :=
  let (negative, rest) := splitSign s
  let word := String.ofList (rest.map Char.toLower)
  if word = "inf" ∨ word = "infinity" then some (.infinite negative)
  else if word = "nan" then some .notANumber
  else (readMagnitude? negative rest).map .decimal

/-- The double that a spelling stands for. -/
def Spelling.toFloat : Spelling → Float
  | .decimal d => d.toFloat
  | .infinite negative => if negative then -(1.0 / 0.0) else 1.0 / 0.0
  | .notANumber => 0.0 / 0.0

end Chargeback.Number
