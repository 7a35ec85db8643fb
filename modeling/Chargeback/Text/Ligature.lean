import Chargeback.Text.LowerCase

/-!
# Ligatures

Letters of some scripts that share a column with the letters before them. A line is read from its
end, so a ligature is known by its last character; the characters in front of it then merge with it,
one after another. Characters are given by their code points.
-/

namespace Chargeback.Text

/-- What a ligature ends with, as far as it has been read. -/
inductive Ligature where
  /-- An Arabic alef, which merges with a lam. -/
  | alef
  /-- A Hebrew lamed, which merges with an alef that is joined to it. -/
  | lamed
  /-- A Khmer letter, which a coeng sign puts below the letter before. -/
  | coeng
  /-- A Buginese ya, which merges with the vowel sign i that is joined to it. -/
  | ya
  /-- A Buginese ya behind the vowel sign i, which merges with the letter a. -/
  | vowelledYa
  /-- A Tifinagh consonant, which merges with a consonant that is joined to it. -/
  | tifinagh
  /-- A Tifinagh consonant behind the consonant joiner, which merges with the consonant before. -/
  | joinedTifinagh
  /-- A Lisu tone letter that follows another tone letter. -/
  | tone
  /-- An Old Turkic i, which merges with the letter that is joined to it. -/
  | turkicI
deriving DecidableEq, Repr

/-- Khmer letters with a form below the line. -/
def coengRanges : List (Nat × Nat) :=
  [
    (0x1780, 0x1782), (0x1784, 0x1787), (0x1789, 0x178c), (0x178e, 0x1793), (0x1795, 0x1798),
    (0x179b, 0x179d), (0x17a0, 0x17a0), (0x17a2, 0x17a2), (0x17a7, 0x17a7), (0x17ab, 0x17ac),
    (0x17af, 0x17af)
  ]

/-- Arabic letters that are shaped as an alef. -/
def alefRanges : List (Nat × Nat) :=
  [
    (0x622, 0x623), (0x625, 0x625), (0x627, 0x627), (0x671, 0x673), (0x675, 0x675), (0x773, 0x774),
    (0x870, 0x882)
  ]

/-- Arabic letters that are shaped as a lam. -/
def lamRanges : List (Nat × Nat) :=
  [(0x644, 0x644), (0x6b5, 0x6b8), (0x76a, 0x76a), (0x8a6, 0x8a6), (0x8c7, 0x8c7)]

/-- The consonants of Tifinagh. -/
def tifinaghRanges : List (Nat × Nat) := [(0x2d31, 0x2d65), (0x2d6f, 0x2d6f)]

/-- Combining marks that leave no trace, in a ligature as elsewhere. -/
def ignorableMarkRanges : List (Nat × Nat) :=
  [
    (0x34f, 0x34f), (0x17b4, 0x17b5), (0x180b, 0x180d), (0x180f, 0x180f), (0xfe00, 0xfe0f),
    (0xe0100, 0xe01ef)
  ]

namespace Ligature

/-- The ligature that a character may be the end of. -/
def endedBy? (n : Nat) : Option Ligature :=
  if inRanges alefRanges n then some alef
  else if n = 0x5dc then some lamed
  else if inRanges coengRanges n then some coeng
  else if n = 0x1a10 then some ya
  else if inRanges tifinaghRanges n then some tifinagh
  else if n = 0xa4fc ∨ n = 0xa4fd then some tone
  else if n = 0x10c03 then some turkicI
  else none

/-- What a character does that merges with the ligature behind it, to which it may be joined: the
columns that it adds, and the ligature that may go on. A character that does not merge gives
nothing. -/
def merge? (ligature : Ligature) (joined : Bool) (n : Nat) : Option (Int × Option Ligature) :=
  match ligature with
  | alef => if inRanges lamRanges n then some (0, none) else none
  | lamed => if joined ∧ n = 0x5d0 then some (0, none) else none
  | coeng => if n = 0x17d2 then some (-1, none) else none
  | ya => if joined ∧ n = 0x1a17 then some (0, some vowelledYa) else none
  | vowelledYa => if n = 0x1a15 then some (0, none) else none
  | tifinagh =>
    if n = 0x2d7f then some (1, some joinedTifinagh)
    else if joined ∧ inRanges tifinaghRanges n then some (0, none)
    else none
  | joinedTifinagh => if inRanges tifinaghRanges n then some (-1, none) else none
  | tone => if 0xa4f8 ≤ n ∧ n ≤ 0xa4fb then some (0, none) else none
  | turkicI => if joined ∧ n = 0x10c32 then some (0, none) else none

end Ligature

end Chargeback.Text
