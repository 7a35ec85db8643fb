import Chargeback.Number.Decimal
import Chargeback.Text.Search

/-!
# Points in time

An instant is a calendar date and a time of day in universal time, to the nanosecond. Second 60 is
kept, since a leap second is a time of its own. The text of an instant ends in `Z`; a text that is
read may give any offset, and blanks between its parts are passed over.
-/

namespace Chargeback

/-- Whether a year has 366 days. -/
def isLeapYear (year : Int) : Bool := year % 4 = 0 && (year % 100 ≠ 0 || year % 400 = 0)

/-- The number of days of a month. -/
def daysInMonth (year : Int) (month : Nat) : Nat :=
  if month = 2 then (if isLeapYear year then 29 else 28)
  else if month = 4 ∨ month = 6 ∨ month = 9 ∨ month = 11 then 30
  else 31

/-- The first year that a date can have. -/
def firstYear : Int := -262143

/-- The last year that a date can have. -/
def lastYear : Int := 262142

/-- A date and time of day in universal time. -/
structure Instant where
  year : Int
  month : Nat
  day : Nat
  hour : Nat
  minute : Nat
  /-- Second 60 is a leap second. -/
  second : Nat
  nano : Nat
  /-- The parts name a time that exists. -/
  valid : firstYear ≤ year ∧ year ≤ lastYear ∧ 1 ≤ month ∧ month ≤ 12 ∧ 1 ≤ day ∧
    day ≤ daysInMonth year month ∧ hour < 24 ∧ minute < 60 ∧ second ≤ 60 ∧ nano < 1000000000
deriving DecidableEq

namespace Instant

/-- The instant of the given parts, if there is one. -/
def ofParts? (year : Int) (month day hour minute second nano : Nat) : Option Instant :=
  if h : firstYear ≤ year ∧ year ≤ lastYear ∧ 1 ≤ month ∧ month ≤ 12 ∧ 1 ≤ day ∧
      day ≤ daysInMonth year month ∧ hour < 24 ∧ minute < 60 ∧ second ≤ 60 ∧ nano < 1000000000 then
    some ⟨year, month, day, hour, minute, second, nano, h⟩
  else none

/-- The day before a date. -/
def dayBefore (year : Int) (month day : Nat) : Int × Nat × Nat :=
  if 1 < day then (year, month, day - 1)
  else if 1 < month then (year, month - 1, daysInMonth year (month - 1))
  else (year - 1, 12, 31)

/-- The day after a date. -/
def dayAfter (year : Int) (month day : Nat) : Int × Nat × Nat :=
  if day < daysInMonth year month then (year, month, day + 1)
  else if month < 12 then (year, month + 1, 1)
  else (year + 1, 1, 1)

/-- The instant that a clock with the given offset shows as `local`. The offset is less than a day,
so the date moves by at most one day. -/
def ofLocal? (t : Instant) (offsetMinutes : Int) : Option Instant :=
  let minutes : Int := t.hour * 60 + t.minute - offsetMinutes
  let (year, month, day) :=
    if minutes < 0 then dayBefore t.year t.month t.day
    else if 1440 ≤ minutes then dayAfter t.year t.month t.day
    else (t.year, t.month, t.day)
  let ofDay := (minutes % 1440).toNat
  ofParts? year month day (ofDay / 60) (ofDay % 60) t.second t.nano

/-! ## Text -/

/-- A natural number with zeros in front up to a width. -/
def padded (width n : Nat) : List Char :=
  let digits := Number.digitsOf n
  List.replicate (width - digits.length) '0' ++ digits

/-- A year takes four digits, and a sign too if it is negative or needs more. -/
def yearText (year : Int) : List Char :=
  if 0 ≤ year ∧ year ≤ 9999 then padded 4 year.natAbs
  else (if year < 0 then '-' else '+') :: padded 4 year.natAbs

/-- The date and the time of day up to the minute, with a mark between them. -/
def minuteText (t : Instant) (mark : Char) : List Char :=
  yearText t.year ++ '-' :: padded 2 t.month ++ '-' :: padded 2 t.day ++
    mark :: padded 2 t.hour ++ ':' :: padded 2 t.minute

/-- The fraction of a second in as many groups of three digits as it needs. -/
def fractionText (nano : Nat) : List Char :=
  if nano = 0 then []
  else if nano % 1000000 = 0 then '.' :: padded 3 (nano / 1000000)
  else if nano % 1000 = 0 then '.' :: padded 6 (nano / 1000)
  else '.' :: padded 9 nano

/-- The text of an instant in a document. -/
def text (t : Instant) : String :=
  String.ofList (t.minuteText 'T' ++ ':' :: padded 2 t.second ++ fractionText t.nano ++ ['Z'])

/-- The text of an instant in a table, to the minute. -/
def shortText (t : Instant) : String := String.ofList (t.minuteText ' ')

/-! ## Reading -/

/-- Reads at least one and at most so many digits. -/
def readDigits? (most : Nat) (s : List Char) : Option (Nat × List Char) :=
  let digits := (s.take most).takeWhile Char.isDigit
  if digits = [] then none
  else some (Number.natOfDigits 0 digits, s.drop digits.length)

/-- Reads a number of at most so many digits. -/
def readNat? (most : Nat) (s : List Char) : Option (Nat × List Char) :=
  readDigits? most (Text.trimStart s)

/-- Reads a mark between two parts. -/
def readMark? (mark : Char) (s : List Char) : Option (List Char) :=
  match Text.trimStart s with
  | c :: rest => if c = mark then some rest else none
  | [] => none

/-- Reads a year; with a sign right in front it may have any number of digits. -/
def readYear? (s : List Char) : Option (Int × List Char) :=
  match Text.trimStart s with
  | '-' :: rest => (readDigits? rest.length rest).map fun (n, rest) => (-(n : Int), rest)
  | '+' :: rest => (readDigits? rest.length rest).map fun (n, rest) => ((n : Int), rest)
  | s => (readDigits? 4 s).map fun (n, rest) => ((n : Int), rest)

/-- Reads a fraction of a second in nanoseconds, if there is one; further digits are dropped. -/
def readFraction? : List Char → Option (Nat × List Char)
  | '.' :: rest =>
    let digits := rest.takeWhile Char.isDigit
    let kept := digits.take 9
    if kept = [] then none
    else some (Number.natOfDigits 0 kept * Nat.pow 10 (9 - kept.length), rest.drop digits.length)
  | s => some (0, s)

/-- Two digits. -/
def readTwo? : List Char → Option (Nat × List Char)
  | a :: b :: rest =>
    if a.isDigit ∧ b.isDigit then some (Number.natOfDigits 0 [a, b], rest) else none
  | _ => none

/-- Reads hours and minutes of an offset, with or without a colon between them. -/
def readOffsetDigits? (s : List Char) : Option (Nat × List Char) := do
  let (hours, rest) ← readTwo? s
  let rest := rest.dropWhile fun c => c = ':' || Text.isBlank c
  let (minutes, rest) ← readTwo? rest
  if hours < 24 ∧ minutes < 60 then some (hours * 60 + minutes, rest) else none

/-- Reads an offset in minutes: `Z`, `UTC`, or a sign, hours and minutes. -/
def readOffset? : List Char → Option (Int × List Char)
  | [] => none
  | c :: rest =>
    if (c :: rest.take 2).map Char.toLower = ['u', 't', 'c'] then some (0, rest.drop 2)
    else if c = 'Z' ∨ c = 'z' then some (0, rest)
    else if c = '+' then (readOffsetDigits? rest).map fun (n, rest) => ((n : Int), rest)
    else if c = '-' ∨ c = '−' then
      (readOffsetDigits? rest).map fun (n, rest) => (-(n : Int), rest)
    else none

/-- Reads a date, a time of day and an offset. -/
def readChars? (s : List Char) : Option Instant := do
  let (year, s) ← readYear? s
  let (month, s) ← readNat? 2 (← readMark? '-' s)
  let (day, s) ← readNat? 2 (← readMark? '-' s)
  let s ← match s with
    | c :: rest => if c = 'T' ∨ c = 't' ∨ c = ' ' then some rest else none
    | [] => none
  let (hour, s) ← readNat? 2 s
  let (minute, s) ← readNat? 2 (← readMark? ':' s)
  let (second, s) ← readNat? 2 (← readMark? ':' s)
  let (nano, s) ← readFraction? s
  let shown ← ofParts? year month day hour minute second nano
  let (offset, s) ← readOffset? (Text.trimStart s)
  guard (Text.trimStart s = [])
  shown.ofLocal? offset

/-- The instant that a text names. -/
def parse? (s : String) : Option Instant := readChars? s.toList

end Instant

end Chargeback
