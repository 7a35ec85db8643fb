import Mathlib.Algebra.Order.Ring.Nat
import Chargeback.Portfolio.Totals
import Chargeback.Proofs.Exact
import Chargeback.Proofs.TextMaps
import Chargeback.Proofs.WellFormed

/-!
# The views of the totals reconcile

The totals show the same amounts three times: added up over the resources, by profile and by
component. Over exact numbers the three views agree. Each breakdown balances by itself: its items
make up its month, the expenses of its items make up the month if its profile is of the advanced
model and are nothing else, and the charges at the start count with the part of a month only. A
resource that no profile prices has no items and no amounts, so it may be left out of both maps. What
holds of every breakdown is carried to the totals by adding up.
-/

namespace Chargeback

/-! ## Parts of a sum -/

section Sums

variable {ι : Type}

theorem sum_map_filter_add_not (p : ι → Bool) (f : ι → ℚ) (l : List ι) :
    ((l.filter p).map f).sum + ((l.filter fun x => !p x).map f).sum = (l.map f).sum := by
  rw [← List.sum_append, ← List.map_append]
  exact ((List.filter_append_perm p l).map f).sum_eq

theorem sum_map_filter (p : ι → Bool) (f : ι → ℚ) (l : List ι) :
    ((l.filter p).map f).sum = (l.map fun x => if p x then f x else 0).sum := by
  induction l with
  | nil => rfl
  | cons x rest ih => cases hx : p x <;> simp [hx, ih]

theorem sum_map_div (f : ι → ℚ) (c : ℚ) (l : List ι) :
    (l.map fun x => f x / c).sum = (l.map f).sum / c := by
  simp only [div_eq_mul_inv]
  exact List.sum_map_mul_right ..

theorem sum_map_ite_one (p : ι → Bool) (l : List ι) :
    (l.map fun x => if p x then 1 else 0).sum = l.countP p := by
  induction l with
  | nil => rfl
  | cons x rest ih => cases hx : p x <;> simp [hx, ih, Nat.add_comm]

theorem countP_add_not (p : ι → Bool) (l : List ι) :
    l.countP p + l.countP (fun x => !p x) = l.length := by
  have hnot : l.countP (fun x => !p x) = l.countP fun x => ¬ p x = true := by
    refine List.countP_congr fun x _ => ?_
    cases p x <;> decide
  rw [hnot]
  exact (List.length_eq_countP_add_countP p).symm

end Sums

/-! ## One breakdown -/

/-- What a resource pays every month besides its part of the charges at the start. -/
def Breakdown.recurring {α : Type} [Scalar α] (b : Breakdown α) : α :=
  Scalar.sum ((b.items.filter fun i => i.kind ≠ RateBasis.oneTime.name).map LineItem.value)

/-- The amounts of a breakdown agree with one another, for a number of months over which the charges
at the start are spread and for the profile that prices the resource, if one does. -/
structure Breakdown.Balances (b : Breakdown ℚ) (months : ℕ) (winner : Option (Profile ℚ)) :
    Prop where
  items : (b.items.map LineItem.value).sum = b.monthly
  expenses : b.capex + b.opex = if winner.any (fun p => p.model = .advanced) then b.monthly else 0
  spread : b.monthly = b.recurring + b.oneTime / months
  unmatched : winner = none → b.monthly = 0

theorem RateBasis.name_eq_oneTime_iff {b : RateBasis} : b.name = oneTime.name ↔ b = oneTime := by
  cases b <;> decide

theorem ItemList.name_ne_oneTime (list : ItemList) : list.name ≠ RateBasis.oneTime.name := by
  cases list <;> decide

/-- The charges of some rates are those that recur, and a part of those at the start. -/
theorem Rate.sum_charges (months : ℕ) (r : Resource ℚ) (rates : List (Rate ℚ)) :
    (rates.map fun c => c.charge months r).sum =
      ((rates.filter fun c => !decide (c.basis = .oneTime)).map fun c => c.charge months r).sum +
        ((rates.filter fun c => c.basis = .oneTime).map Rate.value).sum / months := by
  have hspread : ((rates.filter fun c => c.basis = .oneTime).map fun c => c.charge months r) =
      (rates.filter fun c => c.basis = .oneTime).map fun c => (c.value / months : ℚ) := by
    refine List.map_congr_left fun c hc => ?_
    have hbasis : c.basis = .oneTime := of_decide_eq_true (List.mem_filter.mp hc).2
    unfold charge
    rw [hbasis]
    rfl
  rw [← sum_map_filter_add_not (fun c : Rate ℚ => c.basis = .oneTime), hspread, sum_map_div,
    add_comm]

theorem recurring_simpleBreakdown (periods : ℕ) (p : Profile ℚ) (r : Resource ℚ) :
    (simpleBreakdown periods p r).recurring =
      ((p.rates.filter fun c => !decide (c.basis = .oneTime)).map
        fun c => c.charge (max periods 1) r).sum := by
  have hkind : ∀ c : Rate ℚ, decide (c.basis.name ≠ RateBasis.oneTime.name) =
      !decide (c.basis = .oneTime) := by
    intro c
    rw [← decide_not]
    exact decide_eq_decide.mpr (not_congr RateBasis.name_eq_oneTime_iff)
  unfold Breakdown.recurring simpleBreakdown
  rw [Scalar.sum_rat, List.filter_map, List.map_map]
  exact congrArg (fun l : List (Rate ℚ) => (l.map fun c => c.charge (max periods 1) r).sum)
    (List.filter_congr fun c _ => hkind c)

theorem recurring_advancedBreakdown (w : Weights ℚ) (totals : PoolTotals ℚ) (p : Profile ℚ)
    (r : Resource ℚ) :
    (advancedBreakdown w totals p r).recurring =
      ((advancedBreakdown w totals p r).items.map LineItem.value).sum := by
  have hall : (advancedBreakdown w totals p r).items.filter
      (fun i => i.kind ≠ RateBasis.oneTime.name) = (advancedBreakdown w totals p r).items := by
    rw [List.filter_eq_self, advancedBreakdown_items]
    intro i hi
    obtain ⟨c, -, rfl⟩ := List.mem_map.mp hi
    rw [(SharedItem.isShared_lineItem w totals r c).kind]
    exact decide_eq_true (ItemList.name_ne_oneTime _)
  unfold Breakdown.recurring
  rw [hall, Scalar.sum_rat]

theorem balances_uncosted (months : ℕ) (r : Resource ℚ) :
    (Breakdown.uncosted r).Balances months none where
  items := rfl
  expenses := add_zero 0
  spread := by
    show (0 : ℚ) = 0 + 0 / months
    rw [zero_div, add_zero]
  unmatched := fun _ => rfl

theorem balances_simple (periods : ℕ) {p : Profile ℚ} (hp : p.model = .simple) (r : Resource ℚ) :
    (simpleBreakdown periods p r).Balances (max periods 1) (some p) where
  items := (Scalar.sum_rat _).symm
  expenses := by
    have hmodel : (some p).any (fun p => p.model = .advanced) = false := by simp [hp]
    rw [hmodel]
    exact add_zero 0
  spread := by
    have hmonthly : (simpleBreakdown periods p r).monthly =
        (p.rates.map fun c => c.charge (max periods 1) r).sum := by
      show Scalar.sum ((p.rates.map _).map LineItem.value) = _
      rw [Scalar.sum_rat, List.map_map]
      rfl
    have honeTime : (simpleBreakdown periods p r).oneTime =
        ((p.rates.filter fun c => c.basis = .oneTime).map Rate.value).sum := Scalar.sum_rat _
    rw [hmonthly, honeTime, recurring_simpleBreakdown, Rate.sum_charges]
  unmatched := by intro h; cases h

theorem balances_advanced (w : Weights ℚ) (totals : PoolTotals ℚ) (months : ℕ) {p : Profile ℚ}
    (hp : p.model = .advanced) (r : Resource ℚ) :
    (advancedBreakdown w totals p r).Balances months (some p) := by
  have hitems : ((advancedBreakdown w totals p r).items.map LineItem.value).sum =
      (advancedBreakdown w totals p r).monthly := by
    show ((p.shared.capexItems w totals r ++ p.shared.opexItems w totals r).map
      LineItem.value).sum = Scalar.sum _ + Scalar.sum _
    rw [List.map_append, List.sum_append, Scalar.sum_rat, Scalar.sum_rat]
  refine ⟨hitems, ?_, ?_, by intro h; cases h⟩
  · have hmodel : (some p).any (fun p => p.model = .advanced) = true := by simp [hp]
    rw [hmodel]
    rfl
  · have honeTime : (advancedBreakdown w totals p r).oneTime = 0 := rfl
    rw [recurring_advancedBreakdown, hitems, honeTime, zero_div, add_zero]

theorem EngineOptions.balances_price (o : EngineOptions ℚ) (profiles : List (Profile ℚ))
    (population : List (Resource ℚ)) (r : Resource ℚ) :
    (o.price profiles population r).Balances (max o.allocation.periods 1)
      (Profile.match? r profiles) := by
  unfold price
  cases Profile.match? r profiles with
  | none => exact balances_uncosted _ r
  | some p =>
    unfold AllocationOptions.breakdown AllocationOptions.breakdownWith
    cases hmodel : p.model with
    | simple => simpa only [hmodel] using balances_simple _ hmodel r
    | advanced => simpa only [hmodel] using balances_advanced _ _ _ hmodel r

/-! ## The maps -/

namespace Totals

theorem total_addToProfile_resources {α : Type} [Scalar α] (m : TextMap (ProfileTotals α))
    (b : Breakdown α) :
    (addToProfile m b).total ProfileTotals.resources =
      m.total ProfileTotals.resources + if b.profile?.isSome then 1 else 0 := by
  unfold addToProfile
  cases b.profile? with
  | none => rfl
  | some name =>
    refine TextMap.total_alter ?_
    cases m.get? name <;> simp

theorem total_addToProfile_monthly (m : TextMap (ProfileTotals ℚ)) (b : Breakdown ℚ) :
    (addToProfile m b).total ProfileTotals.monthly =
      m.total ProfileTotals.monthly + if b.profile?.isSome then b.monthly else 0 := by
  unfold addToProfile
  cases b.profile? with
  | none => exact (add_zero _).symm
  | some name =>
    refine TextMap.total_alter ?_
    cases m.get? name <;> rfl

theorem total_addToComponent (m : TextMap ℚ) (i : LineItem ℚ) :
    (addToComponent m i).total id = m.total id + i.value := by
  unfold addToComponent
  refine TextMap.total_alter ?_
  cases m.get? i.name <;> rfl

end Totals

/-! ## The totals -/

namespace Totals

/-- By profile, the totals count the resources that have one. -/
theorem total_resources_byProfile {α : Type} [Scalar α] (inventory : List (Resource α))
    (breakdowns : List (Breakdown α)) :
    (of inventory breakdowns).byProfile.total ProfileTotals.resources =
      breakdowns.countP fun b => b.profile?.isSome := by
  show (breakdowns.foldl addToProfile ∅).total ProfileTotals.resources = _
  rw [foldl_gain total_addToProfile_resources, TextMap.total_empty, zero_add]
  exact sum_map_ite_one (fun b : Breakdown α => b.profile?.isSome) breakdowns

theorem costed_add_uncosted {α : Type} [Scalar α] (inventory : List (Resource α))
    (breakdowns : List (Breakdown α)) :
    (of inventory breakdowns).costed + (of inventory breakdowns).uncosted = breakdowns.length :=
  countP_add_not Breakdown.isCosted breakdowns

variable (inventory : List (Resource ℚ)) {breakdowns : List (Breakdown ℚ)}

theorem total_monthly_byProfile (h : ∀ b ∈ breakdowns, b.profile? = none → b.monthly = 0) :
    (of inventory breakdowns).byProfile.total ProfileTotals.monthly =
      (breakdowns.map Breakdown.monthly).sum := by
  show (breakdowns.foldl addToProfile ∅).total ProfileTotals.monthly = _
  rw [foldl_gain total_addToProfile_monthly, TextMap.total_empty, zero_add]
  refine congrArg List.sum (List.map_congr_left fun b hb => ?_)
  cases hprofile : b.profile? with
  | none => exact (h b hb hprofile).symm
  | some name => rfl

theorem total_byComponent
    (h : ∀ b ∈ breakdowns, (b.items.map LineItem.value).sum = b.monthly) :
    (of inventory breakdowns).byComponent.total id = (breakdowns.map Breakdown.monthly).sum := by
  show ((breakdowns.flatMap Breakdown.items).foldl addToComponent ∅).total id = _
  rw [foldl_gain total_addToComponent, TextMap.total_empty, zero_add, List.map_flatMap,
    List.flatMap_def, List.sum_flatten, List.map_map]
  exact congrArg List.sum (List.map_congr_left h)

end Totals

namespace EngineOptions

section Exact

variable (o : EngineOptions ℚ) (profiles : List (Profile ℚ)) (inventory : List (Resource ℚ))

/-- The expenses of an inventory are what its resources with a profile of the advanced model pay. -/
theorem sum_expenses :
    let breakdowns := inventory.map (o.price profiles inventory)
    (breakdowns.map Breakdown.capex).sum + (breakdowns.map Breakdown.opex).sum =
      (((inventory.zip breakdowns).filter fun x =>
        (Profile.match? x.1 profiles).any fun p => p.model = .advanced).map
          fun x => x.2.monthly).sum := by
  intro breakdowns
  rw [← List.sum_map_add, sum_map_filter, ← List.map_prod_left_eq_zip, List.map_map, List.map_map]
  refine congrArg List.sum (List.map_congr_left fun r _ => ?_)
  exact (o.balances_price profiles inventory r).expenses

theorem sum_monthly_eq_spread :
    let breakdowns := inventory.map (o.price profiles inventory)
    (breakdowns.map Breakdown.monthly).sum = (breakdowns.map Breakdown.recurring).sum +
      (breakdowns.map Breakdown.oneTime).sum / (max o.allocation.periods 1 : ℕ) := by
  intro breakdowns
  rw [← sum_map_div, ← List.sum_map_add, List.map_map, List.map_map]
  refine congrArg List.sum (List.map_congr_left fun r _ => ?_)
  exact (o.balances_price profiles inventory r).spread

theorem items_and_profile_of_mem_priceAll {b : Breakdown ℚ}
    (hb : b ∈ o.priceAll profiles inventory) :
    (b.items.map LineItem.value).sum = b.monthly ∧ (b.profile? = none → b.monthly = 0) := by
  rw [priceAll_eq_map] at hb
  obtain ⟨r, -, rfl⟩ := List.mem_map.mp hb
  have hprice := o.balances_price profiles inventory r
  refine ⟨hprice.items, fun hprofile => hprice.unmatched ?_⟩
  rwa [profile?_price, Option.map_eq_none_iff] at hprofile

end Exact

theorem countP_profile?_priceAll {α : Type} [Scalar α] (o : EngineOptions α)
    (profiles : List (Profile α)) (inventory : List (Resource α)) :
    (o.priceAll profiles inventory).countP (fun b => b.profile?.isSome) =
      inventory.countP fun r => (Profile.match? r profiles).isSome := by
  rw [priceAll_eq_map, List.countP_map]
  refine List.countP_congr fun r _ => ?_
  rw [Function.comp_apply, profile?_price, Option.isSome_map]

/-- Whatever the inventory, the profiles and the options are: the monthly total is the sum over the
breakdowns, over the profiles and over the components. Capital and operating expense are the part of
it that resources with a profile of the advanced model pay. The charges at the start add up over the
breakdowns, and the monthly total has of them no more than a month's part. Every resource counts once,
as costed or as uncosted, and by profile those are counted that have a match. -/
theorem portfolio_reconciles (o : EngineOptions ℚ) (profiles : List (Profile ℚ))
    (inventory : List (Resource ℚ)) :
    let breakdowns := (o.portfolio profiles inventory).1
    let t := (o.portfolio profiles inventory).2
    t.monthly = (breakdowns.map Breakdown.monthly).sum ∧
      t.byProfile.total ProfileTotals.monthly = t.monthly ∧
      t.byComponent.total id = t.monthly ∧
      t.capex + t.opex = (((inventory.zip breakdowns).filter fun x =>
        (Profile.match? x.1 profiles).any fun p => p.model = .advanced).map
          fun x => x.2.monthly).sum ∧
      t.oneTime = (breakdowns.map Breakdown.oneTime).sum ∧
      t.monthly = (breakdowns.map Breakdown.recurring).sum +
        t.oneTime / (max o.allocation.periods 1 : ℕ) ∧
      t.costed + t.uncosted = t.resources ∧ t.resources = inventory.length ∧
      t.byProfile.total ProfileTotals.resources =
        inventory.countP fun r => (Profile.match? r profiles).isSome := by
  intro breakdowns t
  have hbreakdowns : breakdowns = inventory.map (o.price profiles inventory) :=
    o.priceAll_eq_map profiles inventory
  have hbalances := @items_and_profile_of_mem_priceAll o profiles inventory
  have hmonthly : t.monthly = (breakdowns.map Breakdown.monthly).sum := Scalar.sum_rat _
  have honeTime : t.oneTime = (breakdowns.map Breakdown.oneTime).sum := Scalar.sum_rat _
  have hexpenses : t.capex + t.opex =
      (breakdowns.map Breakdown.capex).sum + (breakdowns.map Breakdown.opex).sum :=
    congrArg₂ (· + ·) (Scalar.sum_rat _) (Scalar.sum_rat _)
  have hlength : breakdowns.length = inventory.length := o.length_priceAll profiles inventory
  refine ⟨hmonthly, ?_, ?_, ?_, honeTime, ?_, ?_, hlength, ?_⟩
  · rw [hmonthly]
    exact Totals.total_monthly_byProfile inventory fun _ hb => (hbalances hb).2
  · rw [hmonthly]
    exact Totals.total_byComponent inventory fun _ hb => (hbalances hb).1
  · rw [hexpenses, hbreakdowns]
    exact o.sum_expenses profiles inventory
  · rw [hmonthly, honeTime, hbreakdowns]
    exact o.sum_monthly_eq_spread profiles inventory
  · exact Totals.costed_add_uncosted inventory breakdowns
  · exact (Totals.total_resources_byProfile inventory breakdowns).trans
      (o.countP_profile?_priceAll profiles inventory)

end EngineOptions

end Chargeback
