import Chargeback.Pricing.Charge

/-!
# The items of a breakdown are the components of its profile

The advanced model charges four lists of components, and two kinds of them. Seen as one list of
shared items, the components of a profile and the items of its breakdowns correspond one to one, in
order, and every item is worth its part of its pool.
-/

namespace Chargeback

variable {α : Type}

/-- A component of the advanced model, with the list that it stands in. -/
inductive SharedItem (α : Type) where
  | hardware (c : Hardware α)
  | running (list : ItemList) (c : Running α)

/-- All shared items, in the order in which they are charged: hardware, operations, facilities and
software. -/
def SharedItems.components (s : SharedItems α) : List (SharedItem α) :=
  s.hardware.map .hardware ++ s.operations.map (.running .operations) ++
    s.facilities.map (.running .facilities) ++ s.software.map (.running .software)

namespace SharedItem

variable [Scalar α]

/-- How the pool of an item is divided. -/
def division : SharedItem α → Division
  | hardware c => c.division
  | running _ c => c.division

/-- What all resources together are charged for an item every month. -/
def pool : SharedItem α → α
  | hardware c => c.pool
  | running _ c => c.monthlyCost

/-- The item of a breakdown. -/
def lineItem (w : Weights α) (totals : PoolTotals α) (r : Resource α) : SharedItem α → LineItem α
  | hardware c => c.lineItem w totals r
  | running list c => c.lineItem w totals r list

theorem lineItem_value (c : SharedItem α) (w : Weights α) (totals : PoolTotals α)
    (r : Resource α) :
    (c.lineItem w totals r).value = c.pool * (Share.of w totals c.division r).fraction := by
  cases c with
  | hardware c => rfl
  | running list c => rfl

end SharedItem

theorem advancedBreakdown_items [Scalar α] (w : Weights α) (totals : PoolTotals α) (p : Profile α)
    (r : Resource α) :
    (advancedBreakdown w totals p r).items =
      p.shared.components.map (·.lineItem w totals r) := by
  simp only [SharedItems.components, List.map_append, List.map_map, List.append_assoc]
  simp only [advancedBreakdown, SharedItems.capexItems, SharedItems.opexItems,
    SharedItems.runningLists, List.flatMap_cons, List.flatMap_nil, List.append_nil]
  rfl

end Chargeback
