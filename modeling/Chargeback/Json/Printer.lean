import Chargeback.Json.Basic

/-!
# Writing JSON

The text of a JSON value, on one line or indented by two blanks. Numbers that are not whole show
it: they have a point or an exponent, and the fewest digits that read back.
-/

namespace Chargeback.Json

open Number

/-- The text of a finite double. Between `1e-5` and `1e16` it is written in positions, beyond that
with an exponent; a whole number has one place. Of two equally short texts the even one is
written. -/
def floatText (x : Float) : List Char :=
  match Double.ofFloat x with
  | .finite negative mantissa exponent =>
    let d := shortest .even negative mantissa exponent
    let magnitude :=
      if d.digits = 0 ∨ -4 ≤ d.point ∧ d.point ≤ 16 then d.positional ['.', '0']
      else d.scientific
    Decimal.signed negative magnitude
  | _ => "null".toList

/-- The text of a whole number. -/
def intText (n : Int) : List Char := Decimal.signed (decide (n < 0)) (digitsOf n.natAbs)

/-- The escape of a character inside a string: a short one where there is one, the code of any
other control character, and all else as it is. -/
def escapeChar (c : Char) : List Char :=
  if c = '"' then ['\\', '"']
  else if c = '\\' then ['\\', '\\']
  else if c.toNat < 0x20 then
    if c.toNat = 8 then ['\\', 'b']
    else if c.toNat = 9 then ['\\', 't']
    else if c.toNat = 10 then ['\\', 'n']
    else if c.toNat = 12 then ['\\', 'f']
    else if c.toNat = 13 then ['\\', 'r']
    else '\\' :: 'u' :: '0' :: '0' ::
      [Nat.digitChar (c.toNat / 16), Nat.digitChar (c.toNat % 16)]
  else [c]

/-- A string between quotes. -/
def stringText (s : String) : List Char := '"' :: (s.toList.flatMap escapeChar ++ ['"'])

/-- The text of a value that is neither array nor object. What stands for no value has no text. -/
def scalarText : Json → List Char
  | .null => "null".toList
  | .bool true => "true".toList
  | .bool false => "false".toList
  | .int n => intText n
  | .float x => floatText x
  | .str s => stringText s
  | .arr _ => []
  | .obj _ => []
  | .unusable => []

mutual

/-- The text of a value without any blanks. -/
def compactText : Json → List Char
  | .arr items => '[' :: (compactItems items ++ [']'])
  | .obj fields => '\x7b' :: (compactFields fields ++ ['\x7d'])
  | j => scalarText j

/-- The items of an array, with commas between them. -/
def compactItems : List Json → List Char
  | [] => []
  | [j] => compactText j
  | j :: rest => compactText j ++ ',' :: compactItems rest

/-- The fields of an object, with commas between them. -/
def compactFields : List (String × Json) → List Char
  | [] => []
  | [(name, j)] => stringText name ++ ':' :: compactText j
  | (name, j) :: rest => stringText name ++ ':' :: (compactText j ++ ',' :: compactFields rest)

end

/-- A new line, indented by two blanks per level. -/
def newLine (level : Nat) : List Char := '\n' :: List.replicate (2 * level) ' '

mutual

/-- The text of a value over several lines. -/
def prettyText (level : Nat) : Json → List Char
  | .arr [] => ['[', ']']
  | .obj [] => ['\x7b', '\x7d']
  | .arr items => '[' :: (prettyItems (level + 1) items ++ newLine level ++ [']'])
  | .obj fields => '\x7b' :: (prettyFields (level + 1) fields ++ newLine level ++ ['\x7d'])
  | j => scalarText j

/-- The items of an array, each on a line of its own. -/
def prettyItems (level : Nat) : List Json → List Char
  | [] => []
  | [j] => newLine level ++ prettyText level j
  | j :: rest => newLine level ++ prettyText level j ++ ',' :: prettyItems level rest

/-- The fields of an object, each on a line of its own. -/
def prettyFields (level : Nat) : List (String × Json) → List Char
  | [] => []
  | [(name, j)] => newLine level ++ stringText name ++ ':' :: ' ' :: prettyText level j
  | (name, j) :: rest =>
    newLine level ++ stringText name ++ ':' :: ' ' :: prettyText level j ++
      ',' :: prettyFields level rest

end

/-- The text of a value on one line. -/
def compact (j : Json) : String := String.ofList (compactText j)

/-- The text of a value over several lines, without a line end behind it. -/
def pretty (j : Json) : String := String.ofList (prettyText 0 j)

end Chargeback.Json
