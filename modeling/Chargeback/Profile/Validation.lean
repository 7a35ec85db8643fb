import Chargeback.Profile.Basic

/-!
# Validation

What keeps a profile from being saved or published. Only the components of its own cost model
count, and neither the identifier nor the status nor the dates are looked at.
-/

namespace Chargeback

/-- A reason why a profile is not valid. -/
inductive Problem where
  | nameMissing
  | descriptionMissing
  | conditionMissing
  /-- The cost model has no component. -/
  | componentMissing (model : CostModel)
  /-- The item at a position of a list, counted from one, has no name. -/
  | unnamed (list : ItemList) (position : Nat)
  /-- The price of an item is not above zero. -/
  | notPositive (list : ItemList) (position : Nat)
deriving DecidableEq, Repr

namespace ItemList

/-- What an item of a list is called. -/
def item : ItemList → String
  | rates => "cost component"
  | list => list.name ++ " item"

/-- What the price of an item is called. -/
def price : ItemList → String
  | rates => "value"
  | hardware => "purchase price"
  | _ => "monthly cost"

end ItemList

namespace Problem

/-- The wording of a problem. -/
def message : Problem → String
  | nameMissing => "name is required"
  | descriptionMissing => "description is required"
  | conditionMissing => "at least one rule condition is required"
  | componentMissing .simple => "at least one cost component is required"
  | componentMissing .advanced => "at least one advanced cost component is required"
  | unnamed list position => list.item ++ " " ++ Number.natText position ++ " needs a name"
  | notPositive list position =>
    list.item ++ " " ++ Number.natText position ++ " needs a " ++ list.price ++ " greater than 0"

end Problem

namespace Profile

variable {α : Type} [Scalar α]

/-- Whether a text has nothing but blanks. -/
def isBlankText (s : String) : Bool := Text.trim s = ""

/-- The problem, if a condition holds. -/
def problemIf (condition : Bool) (problem : Problem) : List Problem :=
  if condition then [problem] else []

/-- The problems of one item. -/
def itemProblems (list : ItemList) (position : Nat) (name : String) (price : α) : List Problem :=
  problemIf (isBlankText name) (.unnamed list position) ++
    problemIf (Scalar.lessOrEqual price Scalar.zero) (.notPositive list position)

/-- The problems of the items of a list, whose names and prices are given by functions. -/
def listProblems {ι : Type} (list : ItemList) (name : ι → String) (price : ι → α)
    (items : List ι) : List Problem :=
  (items.zipIdx 1).flatMap fun (item, position) =>
    itemProblems list position (name item) (price item)

/-- The problems of the components of the cost model. -/
def componentProblems (p : Profile α) : List Problem :=
  problemIf (p.componentCount == 0) (.componentMissing p.model) ++
    match p.model with
    | .simple => listProblems .rates Rate.name Rate.value p.rates
    | .advanced =>
      listProblems .hardware Hardware.name Hardware.purchasePrice p.shared.hardware ++
        p.shared.runningLists.flatMap fun (list, items) =>
          listProblems list Running.name Running.monthlyCost items

/-- All problems of a profile. -/
def problems (p : Profile α) : List Problem :=
  problemIf (isBlankText p.name) .nameMissing ++
    problemIf (isBlankText p.description) .descriptionMissing ++
    problemIf (p.rules.conditionCount == 0) .conditionMissing ++
    p.componentProblems

end Profile

end Chargeback
