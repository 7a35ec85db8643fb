import Chargeback.Lifecycle

/-!
# The store of profiles

A store is a list of profiles in the order in which they were added. A profile is addressed by its
identifier or, if no profile has that identifier, by its name without regard to the case of ASCII
letters. No two profiles are to have the same name: the check for that also ignores blanks around
the names.
-/

namespace Chargeback

/-- The profiles that a pricing chooses from. -/
structure Store (α : Type) where
  profiles : List (Profile α)

/-- Why a store refuses a request. -/
inductive StoreError where
  /-- No profile has the key as its identifier or name. -/
  | profileNotFound (key : String)
  /-- Another profile has the name already. -/
  | duplicateName (name : String)
deriving DecidableEq, Repr

/-- The wording of an error. -/
def StoreError.message : StoreError → String
  | profileNotFound key => "no cost profile with id or name '" ++ key ++ "'"
  | duplicateName name => "a cost profile named '" ++ name ++ "' already exists"

namespace Store

variable {α : Type}

/-! ## Looking up -/

/-- The position of the profile that a key addresses. -/
def position? (s : Store α) (key : String) : Option (Fin s.profiles.length) :=
  (s.profiles.findFinIdx? fun p => p.id == key).or
    (s.profiles.findFinIdx? fun p => Text.sameLetters p.name key)

/-- The position of the profile that a key addresses, or an error. -/
def position (s : Store α) (key : String) : Except StoreError (Fin s.profiles.length) :=
  match s.position? key with
  | some i => .ok i
  | none => .error (.profileNotFound key)

/-- The profile that a key addresses. -/
def get (s : Store α) (key : String) : Except StoreError (Profile α) :=
  (s.position key).map fun i => s.profiles.get i

/-- Whether two names count as the same. -/
def sameName (a b : String) : Bool := Text.sameLetters (Text.trim a) (Text.trim b)

/-- Whether a profile, other than the one at an excepted position, has a name. -/
def isTaken (s : Store α) (name : String) (excepted : Option Nat) : Bool :=
  s.profiles.zipIdx.any fun (p, i) => some i != excepted && sameName p.name name

/-- Refuses a name that another profile has. -/
def checkName (s : Store α) (name : String) (excepted : Option Nat) : Except StoreError Unit :=
  if s.isTaken name excepted then .error (.duplicateName (Text.trim name)) else .ok ()

/-! ## Changing -/

/-- Puts a profile behind all others. -/
def add (s : Store α) (p : Profile α) : Except StoreError (Store α) := do
  s.checkName p.name none
  return ⟨s.profiles ++ [p]⟩

/-- Puts a profile in the place of another one. -/
def replace (s : Store α) (i : Fin s.profiles.length) (p : Profile α) : Store α :=
  ⟨s.profiles.set i p⟩

/-- Takes out the profile that a key addresses, and gives it back. -/
def remove (s : Store α) (key : String) : Except StoreError (Profile α × Store α) :=
  (s.position key).map fun i => (s.profiles.get i, ⟨s.profiles.eraseIdx i⟩)

/-! ## Documents -/

/-- Reads the text of a store. -/
def read? (text : String) : Option (Store Float) :=
  ((Json.read? text).bind (Json.list? Profile.read?)).map Store.mk

/-- The text of a store, which ends with a line end. -/
def text (s : Store Float) : String := (Json.ofList Profile.toJson s.profiles).pretty ++ "\n"

end Store

end Chargeback
