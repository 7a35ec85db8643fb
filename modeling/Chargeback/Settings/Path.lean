import Chargeback.Number.Reader

/-!
# Paths of settings

A path leads to a setting through the objects and arrays around it: names with points between them,
and positions in brackets behind names. Names consist of letters, digits, blanks, underscores and
hyphens.
-/

namespace Chargeback.Setting

/-- A step of a path. -/
inductive Step where
  /-- To the field of an object. -/
  | field (name : String)
  /-- To the item of an array; a negative position counts from the end. -/
  | item (position : Int)
deriving DecidableEq, Repr

/-- Where the reader of a path stands. The characters of the part at hand are kept in reverse. -/
inductive PathState where
  /-- In a name. -/
  | name (chars : List Char)
  /-- Between brackets. -/
  | position (chars : List Char)
  /-- Behind a closing bracket. -/
  | closed
deriving DecidableEq, Repr

/-- Whether a character may stand in a name. -/
def isNameChar (c : Char) : Bool := c.isAlphanum || c = '_' || c = '-' || c = ' '

/-- Whether a character may stand around a position. -/
def isPositionBlank (c : Char) : Bool := c = ' ' || c = '\t'

/-- The position that a text between brackets names, given in reverse. -/
def readPosition? (reversed : List Char) : Option Int :=
  let s := (reversed.dropWhile isPositionBlank).reverse.dropWhile isPositionBlank
  let (negative, digits) := if s.head? = some '-' then (true, s.drop 1) else (false, s)
  let magnitude : Int := Number.natOfDigits 0 digits
  if digits ≠ [] ∧ digits.all Char.isDigit ∧ magnitude < Nat.pow 2 63 then
    some (if negative then -magnitude else magnitude)
  else none

/-- The state behind the mark that ends a part, if it is one. -/
def stateBehind? (c : Char) : Option PathState :=
  if c = '.' then some (.name [])
  else if c = '[' then some (.position [])
  else none

/-- Reads the rest of a path. -/
def readSteps? : PathState → List Char → Option (List Step)
  | .name [], [] => none
  | .name (c :: cs), [] => some [.field (String.ofList (c :: cs).reverse)]
  | .position _, [] => none
  | .closed, [] => some []
  | .name chars, c :: rest =>
    if isNameChar c then readSteps? (.name (c :: chars)) rest
    else if chars = [] then none
    else match stateBehind? c with
      | some state =>
        (readSteps? state rest).map (.field (String.ofList chars.reverse) :: ·)
      | none => none
  | .position chars, c :: rest =>
    if c = ']' then
      match readPosition? chars with
      | some position => (readSteps? .closed rest).map (.item position :: ·)
      | none => none
    else readSteps? (.position (c :: chars)) rest
  | .closed, c :: rest =>
    match stateBehind? c with
    | some state => readSteps? state rest
    | none => none

/-- The path that a name spells. A name that spells none stands for itself. -/
def readPath (name : String) : List Step :=
  (readSteps? (.name []) name.toList).getD [.field name]

end Chargeback.Setting
