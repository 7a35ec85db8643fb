import Chargeback.Portfolio.Pricing

/-!
# Totals of a portfolio

What an inventory costs altogether, by profile and by component, and its capacity. The amounts of
all three views are the same amounts, added up in the order of the inventory.
-/

namespace Chargeback

variable {α : Type} [Scalar α]

/-- The capacity of an inventory. -/
structure Capacity (α : Type) where
  cpu : α
  memory : α
  storage : α
deriving DecidableEq

/-- What one profile prices. -/
structure ProfileTotals (α : Type) where
  resources : Nat
  monthly : α
deriving DecidableEq

/-- The totals over all breakdowns of an inventory. -/
structure Totals (α : Type) where
  resources : Nat
  /-- Resources that cost something. -/
  costed : Nat
  /-- Resources that cost nothing. -/
  uncosted : Nat
  monthly : α
  oneTime : α
  capex : α
  opex : α
  byProfile : TextMap (ProfileTotals α)
  byComponent : TextMap α
  inventory : Capacity α

namespace Capacity

/-- The capacities of all resources added up. -/
def of (inventory : List (Resource α)) : Capacity α where
  cpu := Scalar.sum (inventory.map Resource.cpu)
  memory := Scalar.sum (inventory.map Resource.memory)
  storage := Scalar.sum (inventory.map Resource.storage)

/-- The document of a capacity. -/
def toJson (c : Capacity Float) : Json :=
  .obj [("cpu_total", .ofFloat c.cpu), ("memory_gb_total", .ofFloat c.memory),
    ("storage_gb_total", .ofFloat c.storage)]

end Capacity

namespace Totals

/-- Adds a breakdown to what its profile prices. -/
def addToProfile (m : TextMap (ProfileTotals α)) (b : Breakdown α) : TextMap (ProfileTotals α) :=
  match b.profile? with
  | some name => m.alter name fun entry =>
    let before := entry.getD ⟨0, Scalar.zero⟩
    ⟨before.resources + 1, before.monthly + b.monthly⟩
  | none => m

/-- Adds an item to what its component costs. -/
def addToComponent (m : TextMap α) (i : LineItem α) : TextMap α :=
  m.alter i.name fun entry => entry.getD Scalar.zero + i.value

/-- The totals of an inventory and its breakdowns. -/
def of (inventory : List (Resource α)) (breakdowns : List (Breakdown α)) : Totals α where
  resources := breakdowns.length
  costed := breakdowns.countP Breakdown.isCosted
  uncosted := breakdowns.countP fun b => !b.isCosted
  monthly := Scalar.sum (breakdowns.map Breakdown.monthly)
  oneTime := Scalar.sum (breakdowns.map Breakdown.oneTime)
  capex := Scalar.sum (breakdowns.map Breakdown.capex)
  opex := Scalar.sum (breakdowns.map Breakdown.opex)
  byProfile := breakdowns.foldl addToProfile ∅
  byComponent := (breakdowns.flatMap Breakdown.items).foldl addToComponent ∅
  inventory := .of inventory

/-- How many percent of the resources cost something. -/
def coverage (t : Totals α) : α :=
  if t.resources = 0 then Scalar.zero
  else Scalar.ofNat t.costed / Scalar.ofNat t.resources * Scalar.ofNat 100

/-- The document of the totals of a profile. -/
def profileToJson (t : ProfileTotals Float) : Json :=
  .obj [("resources", .ofNat t.resources), ("monthly_total", .ofFloat t.monthly)]

/-- The document of the totals. -/
def toJson (t : Totals Float) : Json :=
  .obj [("resource_count", .ofNat t.resources), ("costed_count", .ofNat t.costed),
    ("uncosted_count", .ofNat t.uncosted), ("monthly_total", .ofFloat t.monthly),
    ("one_time_total", .ofFloat t.oneTime), ("capex_total", .ofFloat t.capex),
    ("opex_total", .ofFloat t.opex), ("by_profile", .ofTextMap profileToJson t.byProfile),
    ("by_component", .ofTextMap .ofFloat t.byComponent), ("inventory", t.inventory.toJson)]

end Totals

/-- The breakdowns of an inventory and their totals. -/
def EngineOptions.portfolio (o : EngineOptions α) (profiles : List (Profile α))
    (inventory : List (Resource α)) : List (Breakdown α) × Totals α :=
  let breakdowns := o.priceAll profiles inventory
  (breakdowns, .of inventory breakdowns)

/-- The breakdowns with the highest monthly totals, at most so many of them; equally high ones stay
in order. -/
def topByCost (count : Nat) (breakdowns : List (Breakdown α)) : List (Breakdown α) :=
  (Sorting.stableSort (fun a b => Scalar.less b.monthly a.monthly) breakdowns).take count

end Chargeback
