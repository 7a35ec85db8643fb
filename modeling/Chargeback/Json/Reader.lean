import Chargeback.Json.Basic

/-!
# Reading JSON

A strict reader of JSON text: one value with white space around it and nothing else. Each reader
takes a text and gives what it has read with the text that follows; the readers of nested values
count down a number that is larger than any text they are given, so that they end.

Some texts are well formed and stand for no value: a number beyond all doubles, a string with half
of a surrogate pair, an object with such a name, and an array or object that stands too deep inside
others. They are read to their end and become `Json.unusable`.
-/

namespace Chargeback.Json

open Number

/-- The white space of JSON. -/
def isSpace (c : Char) : Bool := c = ' ' || c = '\n' || c = '\r' || c = '\t'

/-- A text without the white space in front. -/
def skipSpace (s : List Char) : List Char := s.dropWhile isSpace

/-- The text after a given beginning. -/
def strip? : List Char → List Char → Option (List Char)
  | [], s => some s
  | _ :: _, [] => none
  | c :: part, d :: s => if c = d then strip? part s else none

/-- The digits behind a point: at least one, if there is a point. -/
def readPlaces? : List Char → Option (List Char × List Char)
  | '.' :: rest =>
    let (places, rest) := splitDigits rest
    if places = [] then none else some (places, rest)
  | s => some ([], s)

/-- An exponent and what follows it: at least one digit, if there is a mark. -/
def readPower? : List Char → Option (Option Int × List Char)
  | [] => some (none, [])
  | mark :: rest =>
    if mark = 'e' ∨ mark = 'E' then
      let (negative, afterSign) := splitSign rest
      let (digits, rest) := splitDigits afterSign
      if digits = [] then none
      else
        let magnitude : Int := natOfDigits 0 digits
        some (some (if negative then -magnitude else magnitude), rest)
    else some (none, mark :: rest)

/-- The value of a number. A whole number that fits in 64 bits stays whole; a negative zero and a
larger one become doubles. One that overflows a double stands for no value.

Every numeral is taken to its nearest double here. A reader that settles for less on numerals with
many digits may miss the last bit of those; that it reads the shortest numeral of a double back
exactly is assumed. -/
def numberOf (negative : Bool) (whole places : List Char) (power : Option Int) : Json :=
  let magnitude := natOfDigits 0 whole
  if places = [] ∧ power = none ∧ !negative ∧ magnitude < UInt64.size then .int magnitude
  else if places = [] ∧ power = none ∧ negative ∧ 0 < magnitude ∧ magnitude ≤ Nat.pow 2 63 then
    .int (-magnitude)
  else
    let x := Decimal.toFloat
      ⟨negative, natOfDigits magnitude places, power.getD 0 - places.length⟩
    if x.isFinite then .float x else .unusable

/-- Reads a number without its sign. A zero in front stands alone. -/
def readNumber? (negative : Bool) (s : List Char) : Option (Json × List Char) := do
  let (whole, rest) := splitDigits s
  if whole = [] ∨ (whole.head? = some '0' ∧ whole.length ≠ 1) then none
  else
    let (places, rest) ← readPlaces? rest
    let (power, rest) ← readPower? rest
    return (numberOf negative whole places power, rest)

/-- The value of a hexadecimal digit. -/
def hexValue? (c : Char) : Option Nat :=
  if c.isDigit then some (c.toNat - '0'.toNat)
  else if 'a' ≤ c ∧ c ≤ 'f' then some (c.toNat - 'a'.toNat + 10)
  else if 'A' ≤ c ∧ c ≤ 'F' then some (c.toNat - 'A'.toNat + 10)
  else none

/-- Reads four hexadecimal digits. -/
def readUnit? : List Char → Option (Nat × List Char)
  | a :: b :: c :: d :: rest => do
    let a ← hexValue? a
    let b ← hexValue? b
    let c ← hexValue? c
    let d ← hexValue? d
    return (((a * 16 + b) * 16 + c) * 16 + d, rest)
  | _ => none

/-- The character beyond the first 65536 whose two codes are given, if the second one is a second
half. -/
def pairChar? (high low : Nat) : Option Char :=
  if 0xdc00 ≤ low ∧ low < 0xe000 then
    some (Char.ofNat (0x10000 + (high - 0xd800) * 0x400 + (low - 0xdc00)))
  else none

/-- Reads the code of a character behind `\u`. A character beyond the first 65536 takes two codes;
half of such a pair is no character. -/
def readCode? (s : List Char) : Option (Option Char × List Char) := do
  let (unit, rest) ← readUnit? s
  if 0xd800 ≤ unit ∧ unit < 0xdc00 then
    match (strip? ['\\', 'u'] rest).bind readUnit? with
    | some (low, behind) =>
      match pairChar? unit low with
      | some c => return (some c, behind)
      | none => return (none, rest)
    | none => return (none, rest)
  else if 0xdc00 ≤ unit ∧ unit < 0xe000 then return (none, rest)
  else return (some (Char.ofNat unit), rest)

/-- Reads what stands behind a backslash. -/
def readEscape? : List Char → Option (Option Char × List Char)
  | '"' :: rest => some (some '"', rest)
  | '\\' :: rest => some (some '\\', rest)
  | '/' :: rest => some (some '/', rest)
  | 'b' :: rest => some (some (Char.ofNat 8), rest)
  | 'f' :: rest => some (some (Char.ofNat 12), rest)
  | 'n' :: rest => some (some '\n', rest)
  | 'r' :: rest => some (some '\r', rest)
  | 't' :: rest => some (some '\t', rest)
  | 'u' :: rest => readCode? rest
  | _ => none

/-- Reads a string behind its opening quote. Control characters must be escaped. A string in which
an escape is no character stands for no text. -/
def readChars? : Nat → List Char → Option (Option (List Char) × List Char)
  | 0, _ => none
  | _ + 1, [] => none
  | fuel + 1, c :: rest =>
    if c = '"' then some (some [], rest)
    else if c = '\\' then do
      let (d, rest) ← readEscape? rest
      let (chars, rest) ← readChars? fuel rest
      return (d.bind fun d => chars.map (d :: ·), rest)
    else if c.toNat < 0x20 then none
    else do
      let (chars, rest) ← readChars? fuel rest
      return (chars.map (c :: ·), rest)

/-- Reads a string behind its opening quote. -/
def readString? (s : List Char) : Option (Option String × List Char) :=
  (readChars? (s.length + 1) s).map fun (chars, rest) => (chars.map String.ofList, rest)

/-- The value of a string. -/
def ofText : Option String → Json
  | some text => .str text
  | none => .unusable

/-- The value of an object. -/
def ofFields (fields : List (Option String × Json)) : Json :=
  match fields.mapM fun field => field.1.map (·, field.2) with
  | some fields => .obj fields
  | none => .unusable

/-- Reads the word of a value that has one. -/
def readWord? (word : String) (value : Json) (s : List Char) : Option (Json × List Char) :=
  (strip? word.toList s).map (value, ·)

mutual

/-- Reads a value. An array or object inside `depth` others, or more, stands for no value. -/
def readValue? : Nat → Nat → List Char → Option (Json × List Char)
  | 0, _, _ => none
  | fuel + 1, depth, s =>
    match skipSpace s with
    | [] => none
    | c :: rest =>
      if c = '"' then do
        let (text, rest) ← readString? rest
        return (ofText text, rest)
      else if c = '[' then do
        let (items, rest) ← readItems? fuel (depth - 1) rest
        return (if depth = 0 then .unusable else .arr items, rest)
      else if c = '\x7b' then do
        let (fields, rest) ← readFields? fuel (depth - 1) rest
        return (if depth = 0 then .unusable else ofFields fields, rest)
      else if c = '-' then readNumber? true rest
      else if c.isDigit then readNumber? false (c :: rest)
      else if c = 't' then readWord? "rue" (.bool true) rest
      else if c = 'f' then readWord? "alse" (.bool false) rest
      else if c = 'n' then readWord? "ull" .null rest
      else none

/-- Reads the items of an array behind its bracket, up to and with the closing one. -/
def readItems? : Nat → Nat → List Char → Option (List Json × List Char)
  | 0, _, _ => none
  | fuel + 1, depth, s =>
    match skipSpace s with
    | ']' :: rest => some ([], rest)
    | s => do
      let (item, rest) ← readValue? fuel depth s
      let (items, rest) ← readMoreItems? fuel depth rest
      return (item :: items, rest)

/-- Reads the items that follow the first one. -/
def readMoreItems? : Nat → Nat → List Char → Option (List Json × List Char)
  | 0, _, _ => none
  | fuel + 1, depth, s =>
    match skipSpace s with
    | ']' :: rest => some ([], rest)
    | ',' :: rest => do
      let (item, rest) ← readValue? fuel depth rest
      let (items, rest) ← readMoreItems? fuel depth rest
      return (item :: items, rest)
    | _ => none

/-- Reads the fields of an object behind its brace, up to and with the closing one. -/
def readFields? : Nat → Nat → List Char → Option (List (Option String × Json) × List Char)
  | 0, _, _ => none
  | fuel + 1, depth, s =>
    match skipSpace s with
    | '\x7d' :: rest => some ([], rest)
    | s => do
      let (field, rest) ← readField? fuel depth s
      let (fields, rest) ← readMoreFields? fuel depth rest
      return (field :: fields, rest)

/-- Reads the fields that follow the first one. -/
def readMoreFields? : Nat → Nat → List Char → Option (List (Option String × Json) × List Char)
  | 0, _, _ => none
  | fuel + 1, depth, s =>
    match skipSpace s with
    | '\x7d' :: rest => some ([], rest)
    | ',' :: rest => do
      let (field, rest) ← readField? fuel depth rest
      let (fields, rest) ← readMoreFields? fuel depth rest
      return (field :: fields, rest)
    | _ => none

/-- Reads a name, a colon and a value. -/
def readField? : Nat → Nat → List Char → Option ((Option String × Json) × List Char)
  | 0, _, _ => none
  | fuel + 1, depth, s =>
    match skipSpace s with
    | '"' :: rest => do
      let (name, rest) ← readString? rest
      match skipSpace rest with
      | ':' :: rest => do
        let (value, rest) ← readValue? fuel depth rest
        return ((name, value), rest)
      | _ => none
    | _ => none

end

/-- Reads a whole text, in which at most `depth` arrays and objects inside one another stand for
values. -/
def readWithin? (depth : Nat) (text : String) : Option Json :=
  let s := text.toList
  match readValue? (3 * s.length + 3) depth s with
  | some (value, rest) => if skipSpace rest = [] then some value else none
  | none => none

/-- How many arrays and objects may stand inside one another in a document. -/
def depthLimit : Nat := 127

/-- Reads the text of a document, parts of which need not stand for values. -/
def read? (text : String) : Option Json := readWithin? depthLimit text

/-- Reads the text of a value. -/
def readUsable? (text : String) : Option Json := (read? text).filter isUsable

end Chargeback.Json
