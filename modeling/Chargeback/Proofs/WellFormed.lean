import Mathlib.Data.List.Forall2
import Chargeback.Proofs.Batch
import Chargeback.Proofs.Components
import Chargeback.Proofs.Matching

/-!
# Every breakdown is well formed

What a breakdown may look like is described here without any pricing: its items correspond one to one
and in order to the components of the profile, and its totals are sums over the items, from the left
and starting with zero. Nothing is assumed of the scalars, so the sums are the ones that doubles
give, in the order in which they are added.
-/

namespace Chargeback

variable {α : Type}

/-! ## Lists of items -/

/-- Items that stand for components one by one. -/
theorem forall₂_map {ι κ : Type} {R : ι → κ → Prop} {f : κ → ι} (h : ∀ c, R (f c) c) (l : List κ) :
    List.Forall₂ R (l.map f) l := by
  rw [List.forall₂_map_left_iff, List.forall₂_same]
  exact fun c _ => h c

/-- Of two lists of items that are booked in different ways, each is found by its way. -/
theorem filter_costClass_append {front back : List (LineItem α)} {c d : CostClass} (hcd : c ≠ d)
    (hfront : ∀ i ∈ front, i.costClass = some c) (hback : ∀ i ∈ back, i.costClass = some d) :
    ((front ++ back).filter fun i => i.costClass = some c) = front ∧
      ((front ++ back).filter fun i => i.costClass = some d) = back := by
  rw [List.filter_append, List.filter_append]
  constructor
  · rw [List.filter_eq_self.mpr fun i hi => decide_eq_true (hfront i hi),
      List.filter_eq_nil_iff.mpr, List.append_nil]
    intro i hi
    rw [hback i hi]
    simpa using hcd.symm
  · rw [List.filter_eq_self.mpr fun i hi => decide_eq_true (hback i hi),
      List.filter_eq_nil_iff.mpr, List.nil_append]
    intro i hi
    rw [hfront i hi]
    simpa using hcd

variable [Scalar α]

/-! ## Items -/

/-- An item stands for a rate. It has no part in any pool, and it is degraded if the basis of the
rate is unknown. -/
structure LineItem.IsRated (i : LineItem α) (c : Rate α) : Prop where
  name : i.name = c.name
  kind : i.kind = c.basis.name
  category : i.category = categoryOr c.category c.basis.category
  costClass : i.costClass = none
  pool : i.pool = none
  share : i.share = none
  degraded : i.degraded = true ↔ c.basis = .unknown

namespace SharedItem

/-- The list that a shared item stands in. -/
def list : SharedItem α → ItemList
  | hardware _ => .hardware
  | running list _ => list

/-- The name of a shared item. -/
def name : SharedItem α → String
  | hardware c => c.name
  | running _ c => c.name

/-- What a shared item says it is booked under. -/
def category : SharedItem α → String
  | hardware c => c.category
  | running _ c => c.category

/-- How a shared item is booked: only hardware is a capital expense. -/
def costClass : SharedItem α → CostClass
  | hardware _ => .capex
  | running _ _ => .opex

/-- Whether some data of a shared item cannot be used: its division, or the years over which
hardware is written off, which must be more than none. -/
def isDefective : SharedItem α → Bool
  | hardware c => c.division = .unknown || !Scalar.less Scalar.zero c.depreciationYears
  | running _ c => c.division = .unknown

end SharedItem

/-- An item stands for a shared item. Its value is its pool times its share, and it is degraded if
some data of the shared item cannot be used. -/
structure LineItem.IsShared (i : LineItem α) (c : SharedItem α) : Prop where
  name : i.name = c.name
  kind : i.kind = c.list.name
  category : i.category = categoryOr c.category c.list.name
  costClass : i.costClass = some c.costClass
  pool : i.pool = some c.pool
  charged : ∃ part, i.share = some part ∧ i.value = c.pool * part
  degraded : i.degraded = true ↔ c.isDefective = true

theorem Rate.isRated_lineItem (periods : Nat) (r : Resource α) (c : Rate α) :
    (c.lineItem periods r).IsRated c where
  name := rfl
  kind := rfl
  category := rfl
  costClass := rfl
  pool := rfl
  share := rfl
  degraded := decide_eq_true_iff

theorem SharedItem.isShared_lineItem (w : Weights α) (totals : PoolTotals α) (r : Resource α)
    (c : SharedItem α) : (c.lineItem w totals r).IsShared c where
  name := by cases c <;> rfl
  kind := by cases c <;> rfl
  category := by cases c <;> rfl
  costClass := by cases c <;> rfl
  pool := by cases c <;> rfl
  charged := by
    refine ⟨(Share.of w totals c.division r).fraction, ?_, c.lineItem_value w totals r⟩
    cases c <;> rfl
  degraded := by cases c <;> rfl

/-! ## Breakdowns -/

namespace Breakdown

/-- Amounts added from the left, starting with zero. -/
def added (amounts : List α) : α := amounts.foldl (fun total x => total + x) Scalar.zero

/-- The breakdown says that nobody prices the resource. -/
structure IsUncosted (b : Breakdown α) : Prop where
  profiles : b.profiles = []
  model : b.model = none
  items : b.items = []
  monthly : b.monthly = Scalar.zero
  oneTime : b.oneTime = Scalar.zero
  capex : b.capex = Scalar.zero
  opex : b.opex = Scalar.zero

/-- The items and totals of the simple model: the month is the sum of all items, and the charges at
the start are those of the rates, not those of the items, which are spread over months. -/
structure IsSimple (b : Breakdown α) (p : Profile α) : Prop where
  items : List.Forall₂ LineItem.IsRated b.items p.rates
  monthly : b.monthly = added (b.items.map LineItem.value)
  oneTime : b.oneTime = added ((p.rates.filter fun c => c.basis = .oneTime).map Rate.value)
  capex : b.capex = Scalar.zero
  opex : b.opex = Scalar.zero

/-- The sum of the items that are booked in a way. -/
def booked (b : Breakdown α) (c : CostClass) : α :=
  added ((b.items.filter fun i => i.costClass = some c).map LineItem.value)

/-- The items and totals of the advanced model: hardware makes the capital expense, all else the
operating expense, and both together the month. -/
structure IsAdvanced (b : Breakdown α) (p : Profile α) : Prop where
  items : List.Forall₂ LineItem.IsShared b.items p.shared.components
  capex : b.capex = b.booked .capex
  opex : b.opex = b.booked .opex
  monthly : b.monthly = b.capex + b.opex
  oneTime : b.oneTime = Scalar.zero

/-- The items and totals of a cost model. -/
def Follows (b : Breakdown α) (p : Profile α) : CostModel → Prop
  | .simple => b.IsSimple p
  | .advanced => b.IsAdvanced p

/-- The breakdown of a resource that a profile prices, if any does. -/
structure IsWellFormed (b : Breakdown α) (r : Resource α) (winner : Option (Profile α)) : Prop where
  resource : b.resourceId = r.id ∧ b.resourceName = r.name
  unmatched : winner = none → b.IsUncosted
  matched : ∀ p, winner = some p →
    b.profiles = [p.name] ∧ b.model = some p.model ∧ b.Follows p p.model

end Breakdown

theorem isSimple_simpleBreakdown (periods : Nat) (p : Profile α) (r : Resource α) :
    (simpleBreakdown periods p r).IsSimple p where
  items := forall₂_map (Rate.isRated_lineItem _ r) p.rates
  monthly := rfl
  oneTime := rfl
  capex := rfl
  opex := rfl

/-! ### Hardware and all else -/

theorem costClass_of_mem_capexItems {w : Weights α} {totals : PoolTotals α} {r : Resource α}
    {s : SharedItems α} {i : LineItem α} (hi : i ∈ s.capexItems w totals r) :
    i.costClass = some .capex := by
  obtain ⟨c, -, rfl⟩ := List.mem_map.mp hi
  rfl

theorem costClass_of_mem_opexItems {w : Weights α} {totals : PoolTotals α} {r : Resource α}
    {s : SharedItems α} {i : LineItem α} (hi : i ∈ s.opexItems w totals r) :
    i.costClass = some .opex := by
  obtain ⟨⟨list, items⟩, -, hi⟩ := List.mem_flatMap.mp hi
  obtain ⟨c, -, rfl⟩ := List.mem_map.mp hi
  rfl

theorem isAdvanced_advancedBreakdown (w : Weights α) (totals : PoolTotals α) (p : Profile α)
    (r : Resource α) : (advancedBreakdown w totals p r).IsAdvanced p := by
  have hhardware : ∀ i ∈ p.shared.capexItems w totals r, i.costClass = some .capex :=
    fun i hi => costClass_of_mem_capexItems hi
  have hrunning : ∀ i ∈ p.shared.opexItems w totals r, i.costClass = some .opex :=
    fun i hi => costClass_of_mem_opexItems hi
  obtain ⟨hcapex, hopex⟩ := filter_costClass_append (by decide) hhardware hrunning
  refine ⟨?_, ?_, ?_, rfl, rfl⟩
  · rw [advancedBreakdown_items]
    exact forall₂_map (SharedItem.isShared_lineItem w totals r) _
  · rw [Breakdown.booked]
    exact congrArg (fun l => Breakdown.added (l.map LineItem.value)) hcapex.symm
  · rw [Breakdown.booked]
    exact congrArg (fun l => Breakdown.added (l.map LineItem.value)) hopex.symm

/-! ## Pricing -/

theorem AllocationOptions.breakdown_follows (o : AllocationOptions α) (p : Profile α)
    (population : List (Resource α)) (r : Resource α) :
    (o.breakdown p population r).profiles = [p.name] ∧
      (o.breakdown p population r).model = some p.model ∧
      (o.breakdown p population r).Follows p p.model := by
  rw [breakdown]
  cases hmodel : p.model with
  | simple =>
    simp only [breakdownWith, hmodel]
    exact ⟨rfl, rfl, isSimple_simpleBreakdown o.periods p r⟩
  | advanced =>
    simp only [breakdownWith, hmodel]
    exact ⟨rfl, rfl, isAdvanced_advancedBreakdown o.weights _ p r⟩

theorem AllocationOptions.resource_breakdown (o : AllocationOptions α) (p : Profile α)
    (population : List (Resource α)) (r : Resource α) :
    (o.breakdown p population r).resourceId = r.id ∧
      (o.breakdown p population r).resourceName = r.name := by
  rw [breakdown]
  cases hmodel : p.model with
  | simple =>
    simp only [breakdownWith, hmodel]
    exact ⟨rfl, rfl⟩
  | advanced =>
    simp only [breakdownWith, hmodel]
    exact ⟨rfl, rfl⟩

namespace EngineOptions

theorem isWellFormed_price (o : EngineOptions α) (profiles : List (Profile α))
    (population : List (Resource α)) (r : Resource α) :
    (o.price profiles population r).IsWellFormed r (Profile.match? r profiles) := by
  rw [price]
  cases Profile.match? r profiles with
  | none => exact ⟨⟨rfl, rfl⟩, fun _ => ⟨rfl, rfl, rfl, rfl, rfl, rfl, rfl⟩, fun _ h => by cases h⟩
  | some p =>
    refine ⟨o.allocation.resource_breakdown p population r, (by intro h; cases h), ?_⟩
    rintro _ ⟨⟩
    exact o.allocation.breakdown_follows p population r

theorem profile?_price (o : EngineOptions α) (profiles : List (Profile α))
    (population : List (Resource α)) (r : Resource α) :
    (o.price profiles population r).profile? = (Profile.match? r profiles).map Profile.name := by
  have hwell := o.isWellFormed_price profiles population r
  unfold Breakdown.profile?
  cases hwinner : Profile.match? r profiles with
  | none => rw [(hwell.unmatched hwinner).profiles]; rfl
  | some p => rw [(hwell.matched p hwinner).1]; rfl

/-- Whatever the options, the profiles and the resources are: the breakdown of a resource is well
formed for the profile that matches it, whether the resource is priced alone, in any population, or
with all others at once, however the work is shared out. -/
theorem every_breakdown_isWellFormed (o : EngineOptions α) (profiles : List (Profile α))
    (inventory : List (Resource α)) :
    (∀ r, (o.price profiles inventory r).IsWellFormed r (Profile.match? r profiles)) ∧
      ∀ sharing, List.Forall₂ (fun b r => b.IsWellFormed r (Profile.match? r profiles))
        (o.priceShared sharing profiles inventory) inventory := by
  refine ⟨o.isWellFormed_price profiles inventory, fun sharing => ?_⟩
  rw [priceShared_eq_map]
  exact forall₂_map (o.isWellFormed_price profiles inventory) inventory

end EngineOptions

namespace Sample

/-- A published profile with a shared item in each list. -/
def rack : Profile Rat :=
  { profile .published 1 everything with
    name := "Rack"
    model := .advanced
    shared :=
      { hardware := [⟨"Blade", 12000, 5, .perVm, ""⟩]
        operations := [⟨"Power", 100, .perCpu, ""⟩]
        facilities := [⟨"Room", 50, .perMemory, "site"⟩]
        software := [⟨"Licence", 30, .unknown, ""⟩] } }

end Sample

example :
    let b := EngineOptions.standard.price [Sample.rack] [Sample.machine] Sample.machine
    (b.items.map fun i => (i.name, i.kind, i.category)) =
        [("Blade", "hardware", "hardware"), ("Power", "operations", "operations"),
          ("Room", "facilities", "site"), ("Licence", "software", "software")] ∧
      b.items.map LineItem.value = [200, 100, 50, 30] ∧
      b.items.map LineItem.degraded = [false, false, false, true] ∧
      b.profiles = ["Rack"] ∧ b.capex = 200 ∧ b.opex = 180 ∧ b.monthly = 380 := by decide +kernel

end Chargeback
