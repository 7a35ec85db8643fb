import Chargeback.Lifecycle
import Chargeback.Telemetry.Event

/-!
# The events of pricing

What a run says while it prices an inventory: how every resource found its profile and what had to
be replaced by a default, then the result for every resource, and in the end the totals. The loops
over the components of a profile warn of a degraded item at the moment when they make it.
-/

namespace Chargeback.Trace

/-! ## Pricing one resource -/

/-- What a pricing loop has done so far. -/
structure Charged where
  /-- The items, in order. -/
  items : List (LineItem Float)
  /-- The warnings about them. -/
  events : List Event

namespace Charged

/-- In front of the first component. -/
def start : Charged := ⟨[], []⟩

/-- The item of one more component. There is a warning beside it if it is degraded. -/
def add (charged : Charged) (item : LineItem Float) (warning : Event) : Charged where
  items := charged.items ++ [item]
  events := if item.degraded then charged.events ++ [warning] else charged.events

/-- The loop over the rates of a profile. -/
def addRates (charged : Charged) (periods : Nat) (p : Profile Float) (r : Resource Float) : Charged :=
  p.rates.foldl (fun charged c =>
    charged.add (c.lineItem (max periods 1) r) (.degradedRate r.id p.name c.name)) charged

/-- The item of a shared item. -/
def addShared (charged : Charged) (p : Profile Float) (r : Resource Float) (item : LineItem Float) :
    Charged :=
  charged.add item (.degradedItem r.id p.name item.name item.calculation)

/-- The loop over the hardware of a profile. -/
def addHardware (charged : Charged) (w : Weights Float) (totals : PoolTotals Float)
    (p : Profile Float) (r : Resource Float) : Charged :=
  p.shared.hardware.foldl (fun charged c => charged.addShared p r (c.lineItem w totals r)) charged

/-- The loop over the lists of running costs of a profile. -/
def addRunning (charged : Charged) (w : Weights Float) (totals : PoolTotals Float)
    (p : Profile Float) (r : Resource Float) : Charged :=
  p.shared.runningLists.foldl (fun charged (list, items) =>
    items.foldl (fun charged c => charged.addShared p r (c.lineItem w totals r list)) charged) charged

end Charged

/-- The loops that charge a resource under a profile whose totals are known. -/
def charging (o : AllocationOptions Float) (p : Profile Float) (totals : PoolTotals Float)
    (r : Resource Float) : Charged :=
  match p.model with
  | .simple => Charged.start.addRates o.periods p r
  | .advanced =>
    (Charged.start.addHardware o.weights totals p r).addRunning o.weights totals p r

/-- The events of pricing one resource under the first of some offers that applies: how it found its
profile, then the warnings about its items. -/
def pricing (o : AllocationOptions Float) (offers : List (Offer Float)) (r : Resource Float) :
    List Event :=
  match (Profile.search r (offers.map Offer.profile)).position.bind (offers[·]?) with
  | some offer =>
    .matched r.id offer.profile.name offer.profile.priority ::
      (charging o offer.profile (offer.totals.getD .none) r).events
  | none => [.unmatched r.id offers.length]

/-! ## Pricing an inventory -/

/-- The event of a breakdown. -/
def result (file : String) (b : Breakdown Float) : Event :=
  match b.profile? with
  | some profile => .priced file profile b
  | none => .unpriced file b

/-- The events of pricing an inventory. The results are told when all resources are priced. -/
def pricingAll (file : String) (o : EngineOptions Float) (profiles : List (Profile Float))
    (inventory : List (Resource Float)) (breakdowns : List (Breakdown Float)) : List Event :=
  let offers := (Profile.candidates profiles).map (o.offer inventory)
  inventory.flatMap (pricing o.allocation offers) ++ breakdowns.map (result file)

/-- The events of the totals. -/
def totals (file : String) (t : Totals Float) : List Event :=
  .totalled file t ::
    if 0 < t.resources ∧ t.costed = 0 then [.nothingCosted file t.resources] else []

/-- The event of an error in the life of a profile, if it is worth one. -/
def rejection (file : String) : LifecycleError → List Event
  | .invalidProfile profile problems => [.rejected file profile problems]
  | .invalidTransition .. => []

end Chargeback.Trace
