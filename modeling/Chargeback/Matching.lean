import Chargeback.Profile.Basic
import Chargeback.Sorting

/-!
# Matching

Which profile prices a resource. The published profiles are tried in order of their priorities,
those of equal priority in the order of the store, and the first one whose rules match is taken.
Nothing behind it is looked at.
-/

namespace Chargeback

/-- What a search for the first match found, and which candidates it looked at. -/
structure Search (ι : Type) where
  /-- The position of the first match among the candidates. -/
  position : Option Nat
  /-- The candidates that were looked at, in order. -/
  tried : List ι
deriving DecidableEq, Repr

namespace Search

variable {ι : Type}

/-- Looks for the first item that a test accepts. -/
def first (test : ι → Bool) : List ι → Search ι
  | [] => ⟨none, []⟩
  | x :: rest =>
    if test x then ⟨some 0, [x]⟩
    else
      let found := first test rest
      ⟨found.position.map (· + 1), x :: found.tried⟩

/-- How many candidates were looked at. -/
def evaluations (s : Search ι) : Nat := s.tried.length

end Search

namespace Profile

variable {α : Type}

/-- The published profiles in the order in which they are tried. -/
def candidates (profiles : List (Profile α)) : List (Profile α) :=
  Sorting.stableSort (fun p q => decide (p.priority < q.priority))
    (profiles.filter Profile.isPublished)

variable [Scalar α]

/-- Whether a profile applies to a resource. -/
def applies (p : Profile α) (r : Resource α) : Bool := p.rules.isMatch r

/-- Looks for the first candidate that applies to a resource. -/
def search (r : Resource α) (candidates : List (Profile α)) : Search (Profile α) :=
  Search.first (·.applies r) candidates

/-- The profile that prices a resource, if any does. -/
def match? (r : Resource α) (profiles : List (Profile α)) : Option (Profile α) :=
  let candidates := candidates profiles
  (search r candidates).position.bind (candidates[·]?)

end Profile

end Chargeback
