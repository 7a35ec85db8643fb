import Chargeback.Store.Basic

/-!
# Changing a store

The five changes that people make to a store: they create, edit, move, and delete profiles. Each
one either fails, and then there is no new store, or touches a single profile.
-/

namespace Chargeback

/-- Why a change is refused. -/
inductive ChangeError where
  /-- The store refuses it. -/
  | store (error : StoreError)
  /-- The life of the profile does not allow it. -/
  | lifecycle (error : LifecycleError)
deriving DecidableEq, Repr

/-- The wording of an error. -/
def ChangeError.message : ChangeError → String
  | store error => error.message
  | lifecycle error => error.message

/-- A change of a store. -/
inductive Change (α : Type) where
  /-- Adds a new draft. -/
  | create (edited : Profile α)
  /-- Gives the addressed profile another content. -/
  | update (key : String) (edited : Profile α)
  /-- Moves the addressed profile to another status. -/
  | move (key : String) (target : Status)
  /-- Takes the addressed profile out. -/
  | delete (key : String)

/-- A step in the life of a profile, with the store behind it. -/
structure Moved (α : Type) where
  before : Profile α
  after : Profile α
  store : Store α

namespace Store

variable {α : Type} [Scalar α]

/-- Adds the draft that an edited profile becomes, and gives the draft back. -/
def create (s : Store α) (edited : Profile α) (id : String) (now : Instant) :
    Except ChangeError (Profile α × Store α) := do
  let draft ← (edited.create id now).mapError .lifecycle
  let store ← (s.add draft).mapError .store
  return (draft, store)

/-- Gives the profile at a position another content, and gives the result back. -/
def updateAt (s : Store α) (i : Fin s.profiles.length) (edited : Profile α) (now : Instant) :
    Except ChangeError (Profile α × Store α) := do
  let updated ← ((s.profiles.get i).update edited now).mapError .lifecycle
  (s.checkName updated.name (some i)).mapError .store
  return (updated, s.replace i updated)

/-- Gives the addressed profile another content, and gives the result back. -/
def update (s : Store α) (key : String) (edited : Profile α) (now : Instant) :
    Except ChangeError (Profile α × Store α) := do
  let i ← (s.position key).mapError .store
  s.updateAt i edited now

/-- Moves the addressed profile to another status. -/
def move (s : Store α) (key : String) (target : Status) (now : Instant) :
    Except ChangeError (Moved α) := do
  let i ← (s.position key).mapError .store
  let moved ← ((s.profiles.get i).moveTo target now).mapError .lifecycle
  return ⟨s.profiles.get i, moved, s.replace i moved⟩

/-- Takes the addressed profile out, and gives it back. -/
def delete (s : Store α) (key : String) : Except ChangeError (Profile α × Store α) :=
  (s.remove key).mapError .store

/-- The store behind a change at a time; a new profile gets the identifier. -/
def apply (s : Store α) (id : String) (now : Instant) :
    Change α → Except ChangeError (Store α)
  | .create edited => (s.create edited id now).map Prod.snd
  | .update key edited => (s.update key edited now).map Prod.snd
  | .move key target => (s.move key target now).map Moved.store
  | .delete key => (s.delete key).map Prod.snd

end Store

end Chargeback
