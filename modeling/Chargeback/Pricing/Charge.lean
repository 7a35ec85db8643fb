import Chargeback.Pricing.Breakdown
import Chargeback.Pricing.Pool

/-!
# Charging a resource

The breakdown of a resource under the profile that prices it. The simple model charges every rate
by itself and adds the charges up in order. The advanced model charges the resource its share of
every pool; hardware adds up to the capital expense, all else to the operating expense, and the two
make the monthly total.
-/

namespace Chargeback

variable {α : Type} [Scalar α]

/-- How pricing can be set up. -/
structure AllocationOptions (α : Type) where
  /-- Over how many months a charge at the start is spread; zero counts as one. -/
  periods : Nat
  weights : Weights α
deriving DecidableEq

/-- What an item is booked under: what it says, or else what it falls back on. -/
def categoryOr (category fallback : String) : String :=
  if category = "" then fallback else category

/-! ## Rates -/

namespace Rate

/-- The charge for a measured capacity, in words. -/
def measuredText (quantity : α) (unit : String) (rate cost : α) : String :=
  Scalar.display quantity ++ " " ++ unit ++ " × " ++ Scalar.money rate ++ " = " ++
    Scalar.money cost

/-- What a rate charges a resource every month. -/
def charge (periods : Nat) (r : Resource α) (c : Rate α) : α :=
  match c.basis with
  | .perCpu => c.value * r.cpu
  | .perMemory => c.value * r.memory
  | .perStorage => c.value * r.storage
  | .fixedMonthly => c.value
  | .oneTime => c.value / Scalar.ofNat periods
  | .unknown => c.value

/-- How a charge comes about, in words. -/
def calculation (periods : Nat) (r : Resource α) (c : Rate α) : String :=
  let cost := c.charge periods r
  match c.basis with
  | .perCpu => measuredText r.cpu "CPUs" c.value cost
  | .perMemory => measuredText r.memory "GB memory" c.value cost
  | .perStorage => measuredText r.storage "GB storage" c.value cost
  | .fixedMonthly => "Fixed monthly = " ++ Scalar.money c.value
  | .oneTime =>
    "One-time " ++ Scalar.money c.value ++ " ÷ " ++ Number.natText periods ++ " months = " ++
      Scalar.money cost
  | .unknown => "Unrecognized type, flat monthly = " ++ Scalar.money c.value

/-- The item that a rate makes. -/
def lineItem (periods : Nat) (r : Resource α) (c : Rate α) : LineItem α where
  name := c.name
  kind := c.basis.name
  category := categoryOr c.category c.basis.category
  costClass := none
  value := c.charge periods r
  pool := none
  share := none
  calculation := c.calculation periods r
  degraded := c.basis = .unknown

end Rate

/-- The breakdown of a resource under a profile of the simple model. -/
def simpleBreakdown (periods : Nat) (p : Profile α) (r : Resource α) : Breakdown α :=
  let items := p.rates.map (·.lineItem (max periods 1) r)
  { Breakdown.uncosted r with
    model := some .simple
    profiles := [p.name]
    monthly := Scalar.sum (items.map LineItem.value)
    oneTime := Scalar.sum ((p.rates.filter fun c => c.basis = .oneTime).map Rate.value)
    items }

/-! ## Shared items -/

namespace Hardware

/-- Whether the years of depreciation can be used. -/
def hasYears (c : Hardware α) : Bool := Scalar.less Scalar.zero c.depreciationYears

/-- The years over which the price is written off; one if the given ones cannot be used. -/
def years (c : Hardware α) : α := if c.hasYears then c.depreciationYears else Scalar.ofNat 1

/-- What the hardware costs every month. -/
def pool (c : Hardware α) : α := c.purchasePrice / (c.years * Scalar.ofNat 12)

/-- The item that a piece of hardware makes for a resource. -/
def lineItem (w : Weights α) (totals : PoolTotals α) (r : Resource α) (c : Hardware α) :
    LineItem α :=
  let share := Share.of w totals c.division r
  let value := c.pool * share.fraction
  { name := c.name
    kind := ItemList.hardware.name
    category := categoryOr c.category ItemList.hardware.name
    costClass := some .capex
    value
    pool := some c.pool
    share := some share.fraction
    calculation :=
      Scalar.money c.purchasePrice ++ " ÷ (" ++ Scalar.display c.years ++ " years × 12) = " ++
        Scalar.money c.pool ++ "/month × " ++ share.text ++ " = " ++ Scalar.money value
    degraded := share.degraded || !c.hasYears }

end Hardware

namespace Running

/-- The item that a running cost makes for a resource. -/
def lineItem (w : Weights α) (totals : PoolTotals α) (r : Resource α) (list : ItemList)
    (c : Running α) : LineItem α :=
  let share := Share.of w totals c.division r
  let value := c.monthlyCost * share.fraction
  { name := c.name
    kind := list.name
    category := categoryOr c.category list.name
    costClass := some .opex
    value
    pool := some c.monthlyCost
    share := some share.fraction
    calculation :=
      Scalar.money c.monthlyCost ++ "/month × " ++ share.text ++ " = " ++ Scalar.money value
    degraded := share.degraded }

end Running

namespace SharedItems

/-- The items of the hardware. -/
def capexItems (w : Weights α) (totals : PoolTotals α) (r : Resource α) (s : SharedItems α) :
    List (LineItem α) :=
  s.hardware.map (·.lineItem w totals r)

/-- The items of all running costs. -/
def opexItems (w : Weights α) (totals : PoolTotals α) (r : Resource α) (s : SharedItems α) :
    List (LineItem α) :=
  s.runningLists.flatMap fun (list, items) => items.map (·.lineItem w totals r list)

end SharedItems

/-- The breakdown of a resource under a profile of the advanced model. -/
def advancedBreakdown (w : Weights α) (totals : PoolTotals α) (p : Profile α) (r : Resource α) :
    Breakdown α :=
  let capexItems := p.shared.capexItems w totals r
  let opexItems := p.shared.opexItems w totals r
  let capex := Scalar.sum (capexItems.map LineItem.value)
  let opex := Scalar.sum (opexItems.map LineItem.value)
  { Breakdown.uncosted r with
    model := some .advanced
    profiles := [p.name]
    monthly := capex + opex
    capex
    opex
    items := capexItems ++ opexItems }

/-! ## Either model -/

namespace AllocationOptions

/-- Charges at the start are spread over a year. -/
def standard : AllocationOptions α where
  periods := 12
  weights := .standard

/-- The totals of the pools of a profile over a population. -/
def poolTotals (o : AllocationOptions α) (p : Profile α) (population : List (Resource α)) :
    PoolTotals α :=
  PoolTotals.compute o.weights p.rules population

/-- The breakdown of a resource under a profile whose totals are known. -/
def breakdownWith (o : AllocationOptions α) (p : Profile α) (totals : PoolTotals α)
    (r : Resource α) : Breakdown α :=
  match p.model with
  | .simple => simpleBreakdown o.periods p r
  | .advanced => advancedBreakdown o.weights totals p r

/-- The breakdown of a resource under a profile. -/
def breakdown (o : AllocationOptions α) (p : Profile α) (population : List (Resource α))
    (r : Resource α) : Breakdown α :=
  match p.model with
  | .simple => o.breakdownWith p .none r
  | .advanced => o.breakdownWith p (o.poolTotals p population) r

/-- The document of the options. -/
def toJson (o : AllocationOptions Float) : Json :=
  .obj [("amortization_periods", .ofNat o.periods), ("weights", o.weights.toJson)]

/-- Reads options; missing ones are as usual. -/
def read? (j : Json) : Option (AllocationOptions Float) := do
  guard (j.isRecord 2)
  let periods ← j.optional? 0 ["amortization_periods"] 12 (Json.natBelow? UInt32.size)
  let weights ← j.optional? 1 ["weights"] .standard Weights.read?
  return { periods, weights }

end AllocationOptions

end Chargeback
