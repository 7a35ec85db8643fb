import Chargeback.Text.CaseTable

/-!
# Lower case

The lower case of a text, for all of Unicode. Every character is mapped by itself, with two
exceptions: a capital I with a dot above becomes two characters, and a capital sigma becomes the
final form at the end of a word, so its lower case depends on its neighbours.
-/

namespace Chargeback.Text

/-- Whether a number lies in one of the ranges of a sorted table. -/
def inRanges (ranges : List (Nat × Nat)) (n : Nat) : Bool :=
  match ranges.find? (fun r => n ≤ r.2) with
  | some r => r.1 ≤ n
  | none => false

/-- The lower case of one character by itself. -/
def lowerChar (c : Char) : List Char :=
  let n := c.toNat
  if n = 0x130 then ['i', Char.ofNat 0x307]
  else match caseRuns.find? (fun r => n ≤ r.last) with
    | some r =>
      if r.first ≤ n ∧ (n - r.first) % r.step = 0 then [Char.ofNat (n + r.shift).toNat] else [c]
    | none => [c]

/-- Whether the first character that is not ignorable is a letter with case. -/
def reachesCased : List Char → Bool
  | [] => false
  | c :: rest =>
    if inRanges caseIgnorableRanges c.toNat then reachesCased rest
    else inRanges casedRanges c.toNat

/-- The lower case of a text whose preceding characters are given, the nearest first. -/
def lowerAfter (before : List Char) : List Char → List Char
  | [] => []
  | c :: rest =>
    if c = 'Σ' then
      (if reachesCased before && !reachesCased rest then 'ς' else 'σ') ::
        lowerAfter (c :: before) rest
    else lowerChar c ++ lowerAfter (c :: before) rest

/-- The lower case of a text. -/
def lower (s : List Char) : List Char := lowerAfter [] s

/-- The lower case of each character by itself, without regard to its neighbours. -/
def lowerEach (s : List Char) : List Char := s.flatMap lowerChar

end Chargeback.Text
