import Mathlib.Algebra.Order.Ring.Nat
import Chargeback.Proofs.Batch
import Chargeback.Proofs.TextMaps
import Chargeback.Telemetry.Trace

/-!
# Every degraded item has its warning

The loops over the components of a profile make the items one by one and warn beside those that are
degraded, while a breakdown holds all items at once. The loops make the same items, in the same order,
and so behind each of them the warnings are those of the degraded items of the breakdown, one for each
and no other (`Charged.Tells`). Counted over an inventory, they are as many as its degraded items.
-/

namespace Chargeback

/-- The name under which an event is known, if it has one. -/
def Event.name? (e : Event) : Option String :=
  match e.fields.lookup "event" with
  | some (.str name) => some name
  | _ => none

theorem Event.decide_name?_eq_degraded :
    (fun e : Event => decide (e.name? = some "line_item_degraded")) = isDegradation := by
  funext e
  cases e <;>
    simp [name?, fields, savedFields, isDegradation, TextMap.lookup_cons_eq_ite]

namespace Trace

/-! ## The loops over the components -/

namespace Charged

variable {warning : LineItem Float → Event} {charged : Charged}

/-- The events are the warnings of the degraded items, in order. -/
def Tells (warning : LineItem Float → Event) (charged : Charged) : Prop :=
  charged.events = (charged.items.filter LineItem.degraded).map warning

theorem Tells.start : start.Tells warning := rfl

/-- One more item keeps this. -/
theorem Tells.add (h : charged.Tells warning) (item : LineItem Float) :
    (charged.add item (warning item)).Tells warning := by
  unfold Tells Charged.add
  cases hitem : item.degraded with
  | true =>
    rw [if_pos rfl, h, List.filter_append, List.filter_cons_of_pos hitem, List.map_append]
    rfl
  | false =>
    rw [if_neg Bool.false_ne_true, h, List.filter_append,
      List.filter_cons_of_neg (by rw [hitem]; exact Bool.false_ne_true), List.filter_nil,
      List.append_nil]

/-- A loop over components adds the item of each, and tells of the degraded ones. -/
theorem Tells.foldl {ι : Type} (item : ι → LineItem Float) {step : Charged → ι → Charged}
    (hstep : ∀ charged c, step charged c = charged.add (item c) (warning (item c)))
    (components : List ι) (h : charged.Tells warning) :
    (components.foldl step charged).Tells warning ∧
      (components.foldl step charged).items = charged.items ++ components.map item := by
  induction components generalizing charged with
  | nil => exact ⟨h, (List.append_nil _).symm⟩
  | cons c rest ih =>
    have hnext : (step charged c).Tells warning := by
      rw [hstep]
      exact h.add (item c)
    obtain ⟨htells, hitems⟩ := ih hnext
    refine ⟨htells, ?_⟩
    rw [List.foldl_cons, hitems, hstep, Charged.add, List.append_assoc]
    rfl

/-- The same for components in several lists. -/
theorem Tells.foldl_foldl {κ ι : Type} (item : κ → ι → LineItem Float)
    {step : κ → Charged → ι → Charged}
    (hstep : ∀ list charged c, step list charged c = charged.add (item list c) (warning (item list c)))
    (lists : List (κ × List ι)) (h : charged.Tells warning) :
    let done := lists.foldl (fun charged (list, items) => items.foldl (step list) charged) charged
    done.Tells warning ∧
      done.items = charged.items ++ lists.flatMap fun (list, items) => items.map (item list) := by
  induction lists generalizing charged with
  | nil => exact ⟨h, (List.append_nil _).symm⟩
  | cons entry rest ih =>
    obtain ⟨list, items⟩ := entry
    obtain ⟨hlist, hitems⟩ := h.foldl (item list) (hstep list) items
    obtain ⟨htells, hall⟩ := ih hlist
    refine ⟨htells, hall.trans ?_⟩
    rw [hitems, List.append_assoc, List.flatMap_cons]

end Charged

/-- The warning about an item of a profile. -/
def warning (p : Profile Float) (r : Resource Float) (item : LineItem Float) : Event :=
  match p.model with
  | .simple => .degradedRate r.id p.name item.name
  | .advanced => .degradedItem r.id p.name item.name item.calculation

theorem isDegradation_warning (p : Profile Float) (r : Resource Float) (item : LineItem Float) :
    (warning p r item).isDegradation = true := by
  unfold warning
  cases p.model with
  | simple => rfl
  | advanced => rfl

/-- The loops make the items of the breakdown, and tell of the degraded ones. -/
theorem charging_spec (o : AllocationOptions Float) (p : Profile Float) (totals : PoolTotals Float)
    (r : Resource Float) :
    (charging o p totals r).Tells (warning p r) ∧
      (charging o p totals r).items = (o.breakdownWith p totals r).items := by
  unfold charging AllocationOptions.breakdownWith
  cases hmodel : p.model with
  | simple =>
    have hwarning : warning p r = fun item => .degradedRate r.id p.name item.name := by
      funext item
      rw [warning, hmodel]
    rw [hwarning]
    exact Charged.Tells.start.foldl (fun c => c.lineItem (max o.periods 1) r)
      (fun charged c => rfl) p.rates
  | advanced =>
    have hwarning :
        warning p r = fun item => .degradedItem r.id p.name item.name item.calculation := by
      funext item
      rw [warning, hmodel]
    have hstart : Charged.start.Tells (warning p r) := Charged.Tells.start
    rw [hwarning] at hstart ⊢
    obtain ⟨hhardware, hcapex⟩ := hstart.foldl (fun c => c.lineItem o.weights totals r)
      (fun charged c => rfl) p.shared.hardware
    obtain ⟨hrunning, hopex⟩ := hhardware.foldl_foldl
      (fun list c => c.lineItem o.weights totals r list)
      (fun list charged c => rfl) p.shared.runningLists
    refine ⟨hrunning, hopex.trans ?_⟩
    rw [hcapex]
    rfl

/-- The warnings of the loops, read off the finished breakdown. -/
theorem events_charging (o : AllocationOptions Float) (p : Profile Float) (totals : PoolTotals Float)
    (r : Resource Float) :
    (charging o p totals r).events =
      ((o.breakdownWith p totals r).items.filter LineItem.degraded).map (warning p r) := by
  obtain ⟨htells, hitems⟩ := charging_spec o p totals r
  rw [← hitems]
  exact htells

/-! ## Counting the warnings -/

/-- The loops tell of nothing but degraded items. -/
theorem isDegradation_of_mem_charging {o : AllocationOptions Float} {p : Profile Float}
    {totals : PoolTotals Float} {r : Resource Float} {e : Event}
    (he : e ∈ (charging o p totals r).events) : e.isDegradation = true := by
  rw [events_charging] at he
  obtain ⟨item, -, rfl⟩ := List.mem_map.mp he
  exact isDegradation_warning p r item

theorem countP_events_charging (o : AllocationOptions Float) (p : Profile Float)
    (totals : PoolTotals Float) (r : Resource Float) :
    (charging o p totals r).events.countP Event.isDegradation =
      (o.breakdownWith p totals r).degradedItems := by
  rw [List.countP_eq_length.mpr fun e => isDegradation_of_mem_charging, events_charging, List.length_map,
    ← List.countP_eq_length_filter]
  rfl

theorem countP_pricing (o : EngineOptions Float) (offers : List (Offer Float))
    (r : Resource Float) :
    (pricing o.allocation offers r).countP Event.isDegradation =
      (o.priceAmong offers r).degradedItems := by
  unfold pricing EngineOptions.priceAmong
  cases (Profile.search r (offers.map Offer.profile)).position.bind (offers[·]?) with
  | none => rfl
  | some offer =>
    exact (List.countP_cons_of_neg Bool.false_ne_true).trans (countP_events_charging ..)

theorem isDegradation_result (file : String) (b : Breakdown Float) :
    (result file b).isDegradation = false := by
  unfold result
  cases b.profile? with
  | none => rfl
  | some profile => rfl

/-- Pricing an inventory warns as often as there are degraded items. -/
theorem countP_pricingAll (file : String) (o : EngineOptions Float) (profiles : List (Profile Float))
    (inventory : List (Resource Float)) (breakdowns : List (Breakdown Float)) :
    (pricingAll file o profiles inventory breakdowns).countP Event.isDegradation =
      ((o.priceAll profiles inventory).map Breakdown.degradedItems).sum := by
  have hresults : (breakdowns.map (result file)).countP Event.isDegradation = 0 := by
    rw [List.countP_eq_zero]
    intro e he
    obtain ⟨b, -, rfl⟩ := List.mem_map.mp he
    rw [isDegradation_result]
    exact Bool.false_ne_true
  unfold pricingAll
  rw [List.countP_append, hresults, Nat.add_zero, List.countP_flatMap, o.priceAll_eq_map,
    List.map_map]
  refine congrArg List.sum (List.map_congr_left fun r _ => ?_)
  rw [Function.comp_apply, Function.comp_apply, countP_pricing, o.priceAmong_offers]

theorem countP_totals (file : String) (t : Totals Float) :
    (totals file t).countP Event.isDegradation = 0 := by
  unfold totals
  split
  · rfl
  · rfl

end Trace

end Chargeback
