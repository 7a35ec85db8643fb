import Chargeback.Profile.Validation

/-!
# The life of a profile

A profile is created as a draft, submitted for review, published and withdrawn to a draft again. A
profile must be valid to be saved, and again to be published. Whatever an edit carries, the
identifier, the status and the date of creation of a stored profile stay.
-/

namespace Chargeback

/-- Why a step in the life of a profile is refused. -/
inductive LifecycleError where
  /-- The workflow has no step between these statuses. -/
  | invalidTransition (profile : String) (origin target : Status)
  /-- The profile has problems. -/
  | invalidProfile (profile : String) (problems : List Problem)
deriving DecidableEq, Repr

namespace LifecycleError

/-- The wording of an error. -/
def message : LifecycleError → String
  | invalidTransition profile origin target =>
    "cannot move profile '" ++ profile ++ "' from " ++ origin.name ++ " to " ++ target.name
  | invalidProfile profile problems =>
    "profile '" ++ profile ++ "' is invalid: " ++
      String.intercalate "; " (problems.map Problem.message)

end LifecycleError

/-- The statuses that can follow one another. -/
def Status.canMoveTo : Status → Status → Bool
  | draft, inReview => true
  | inReview, published => true
  | published, draft => true
  | _, _ => false

namespace Profile

variable {α : Type} [Scalar α]

/-- Refuses a profile with problems. -/
def validate (p : Profile α) : Except LifecycleError Unit :=
  if p.problems.isEmpty then .ok () else .error (.invalidProfile p.name p.problems)

/-- Moves a profile to another status. -/
def moveTo (p : Profile α) (target : Status) (now : Instant) :
    Except LifecycleError (Profile α) :=
  if p.status.canMoveTo target then do
    if target = .published then p.validate
    return { p with status := target, modified := some now, created := p.created.or (some now) }
  else .error (.invalidTransition p.name p.status target)

/-- The new draft that an edited profile becomes. -/
def create (edited : Profile α) (id : String) (now : Instant) :
    Except LifecycleError (Profile α) := do
  edited.validate
  return { edited with id := id, status := .draft, created := some now, modified := some now }

/-- A stored profile after an edit. -/
def update (stored edited : Profile α) (now : Instant) : Except LifecycleError (Profile α) := do
  edited.validate
  return { edited with
    id := stored.id
    status := stored.status
    created := stored.created.or (some now)
    modified := some now }

end Profile

/-- How many profiles have each status. -/
structure StatusCounts where
  draft : Nat
  inReview : Nat
  published : Nat
deriving DecidableEq, Repr

namespace StatusCounts

/-- Counts the profiles of a list. -/
def of {α : Type} (profiles : List (Profile α)) : StatusCounts where
  draft := profiles.countP fun p => p.status = .draft
  inReview := profiles.countP fun p => p.status = .inReview
  published := profiles.countP fun p => p.status = .published

/-- The document of the counts. -/
def toJson (c : StatusCounts) : Json :=
  .obj [("draft", .ofNat c.draft), ("in_review", .ofNat c.inReview),
    ("published", .ofNat c.published)]

end StatusCounts

end Chargeback
