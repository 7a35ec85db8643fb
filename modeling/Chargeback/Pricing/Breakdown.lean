import Chargeback.Profile.Basic

/-!
# Breakdowns

What one resource costs, item by item. A breakdown names the profile that priced the resource, and
is empty if there is none.
-/

namespace Chargeback

/-- How an item of the advanced model is booked. -/
inductive CostClass where
  /-- Capital expense. -/
  | capex
  /-- Operating expense. -/
  | opex
deriving DecidableEq, Repr

/-- One charge. -/
structure LineItem (α : Type) where
  name : String
  /-- The basis of the rate, or the list that the shared item stands in. -/
  kind : String
  category : String
  costClass : Option CostClass
  /-- What the resource is charged every month. -/
  value : α
  /-- What all resources are charged together. -/
  pool : Option α
  /-- The part of it that the resource is charged. -/
  share : Option α
  /-- How the value comes about, in words. -/
  calculation : String
  /-- Whether some data of the component could not be used. -/
  degraded : Bool
deriving DecidableEq

/-- All charges of a resource. -/
structure Breakdown (α : Type) where
  resourceId : String
  resourceName : String
  model : Option CostModel
  /-- The name of the profile that priced the resource, if any did. -/
  profiles : List String
  /-- What the resource costs every month. -/
  monthly : α
  /-- The charges at the start, before they are spread over months. -/
  oneTime : α
  capex : α
  opex : α
  items : List (LineItem α)
deriving DecidableEq

namespace CostClass

/-- The name of a cost class. -/
def name : CostClass → String
  | capex => "capex"
  | opex => "opex"

/-- Reads a cost class; other names are refused. -/
def read? (j : Json) : Option CostClass :=
  j.variant?.bind fun name => [("capex", capex), ("opex", opex)].lookup name

end CostClass

namespace Breakdown

variable {α : Type} [Scalar α]

/-- The breakdown of a resource that no profile prices. -/
def uncosted (r : Resource α) : Breakdown α where
  resourceId := r.id
  resourceName := r.name
  model := none
  profiles := []
  monthly := Scalar.zero
  oneTime := Scalar.zero
  capex := Scalar.zero
  opex := Scalar.zero
  items := []

/-- The profile that priced the resource. -/
def profile? (b : Breakdown α) : Option String := b.profiles.head?

/-- Whether the resource costs anything. -/
def isCosted (b : Breakdown α) : Bool :=
  !(b.monthly == Scalar.zero) || !(b.oneTime == Scalar.zero)

/-- How many items are degraded. -/
def degradedItems (b : Breakdown α) : Nat := b.items.countP LineItem.degraded

end Breakdown

/-! ## Documents -/

namespace LineItem

/-- The document of an item. What an item of the simple model does not have is left out, and so is
the mark of a degraded item where it does not apply. -/
def toJson (i : LineItem Float) : Json :=
  .obj ([("name", .str i.name), ("component_type", .str i.kind), ("category", .str i.category)] ++
    Json.optionalField "cost_class" (fun c => .str c.name) i.costClass ++
    [("value", .ofFloat i.value)] ++
    Json.optionalField "pool_total" .ofFloat i.pool ++
    Json.optionalField "share" .ofFloat i.share ++
    [("calculation", .str i.calculation)] ++
    if i.degraded then [("degraded", .bool true)] else [])

/-- Reads an item. -/
def read? (j : Json) : Option (LineItem Float) := do
  guard (j.isRecord 9)
  let name ← j.required? 0 ["name"] Json.str?
  let kind ← j.required? 1 ["component_type"] Json.str?
  let category ← j.required? 2 ["category"] Json.str?
  let costClass ← j.optional? 3 ["cost_class"] none (Json.nullable? CostClass.read?)
  let value ← j.required? 4 ["value"] Json.float?
  let pool ← j.optional? 5 ["pool_total"] none (Json.nullable? Json.float?)
  let share ← j.optional? 6 ["share"] none (Json.nullable? Json.float?)
  let calculation ← j.required? 7 ["calculation"] Json.str?
  let degraded ← j.optional? 8 ["degraded"] false Json.bool?
  return { name, kind, category, costClass, value, pool, share, calculation, degraded }

end LineItem

namespace Breakdown

/-- The document of a breakdown. The cost model is left out when there is none. -/
def toJson (b : Breakdown Float) : Json :=
  .obj ([("resource_id", .str b.resourceId), ("resource_name", .str b.resourceName)] ++
    Json.optionalField "cost_model" (fun m => .str m.name) b.model ++
    [("applied_profiles", .ofList .str b.profiles), ("monthly_total", .ofFloat b.monthly),
     ("one_time_total", .ofFloat b.oneTime), ("capex_total", .ofFloat b.capex),
     ("opex_total", .ofFloat b.opex), ("line_items", .ofList LineItem.toJson b.items)])

/-- Reads a breakdown. -/
def read? (j : Json) : Option (Breakdown Float) := do
  guard (j.isRecord 9)
  let resourceId ← j.required? 0 ["resource_id"] Json.str?
  let resourceName ← j.required? 1 ["resource_name"] Json.str?
  let model ← j.optional? 2 ["cost_model"] none (Json.nullable? CostModel.read?)
  let profiles ← j.required? 3 ["applied_profiles"] (Json.list? Json.str?)
  let monthly ← j.required? 4 ["monthly_total"] Json.float?
  let oneTime ← j.required? 5 ["one_time_total"] Json.float?
  let capex ← j.required? 6 ["capex_total"] Json.float?
  let opex ← j.required? 7 ["opex_total"] Json.float?
  let items ← j.required? 8 ["line_items"] (Json.list? LineItem.read?)
  return { resourceId, resourceName, model, profiles, monthly, oneTime, capex, opex, items }

end Breakdown

end Chargeback
