import Mathlib.Data.List.FinRange
import Mathlib.Data.List.OfFn
import Chargeback.Proofs.Batch
import Chargeback.Proofs.Reconciliation

/-!
# The order of the inventory

Everything that is added up over an inventory is added up in its order: the totals of the pools, the
totals of the portfolio, and the entries of two maps, which are made where they are first needed. Over
exact numbers none of these orders shows. For the pools this means that every resource keeps its
shares, and with them its items and their texts, so its breakdown is the same wherever it stands. For
the maps it means that two additions can change places, also where one of them makes the entry.
-/

namespace Chargeback

theorem Scalar.sum_eq_of_perm {l l' : List ℚ} (h : l.Perm l') : Scalar.sum l = Scalar.sum l' := by
  rw [sum_rat, sum_rat, h.sum_eq]

/-! ## Breakdowns -/

section Breakdowns

variable {population population' : List (Resource ℚ)}

theorem PoolTotals.ofMembers_eq_of_perm (w : Weights ℚ) {members members' : List (Resource ℚ)}
    (h : members.Perm members') : ofMembers w members = ofMembers w members' := by
  unfold ofMembers
  rw [h.length_eq, Scalar.sum_eq_of_perm (h.map _), Scalar.sum_eq_of_perm (h.map _),
    Scalar.sum_eq_of_perm (h.map _), Scalar.sum_eq_of_perm (h.map _)]

theorem AllocationOptions.breakdown_eq_of_perm (o : AllocationOptions ℚ) (p : Profile ℚ)
    (h : population.Perm population') (r : Resource ℚ) :
    o.breakdown p population r = o.breakdown p population' r := by
  have htotals : o.poolTotals p population = o.poolTotals p population' :=
    PoolTotals.ofMembers_eq_of_perm o.weights (h.filter _)
  unfold breakdown
  rw [htotals]

/-- What a resource costs does not depend on the order of the resources that it shares pools with. -/
theorem EngineOptions.price_eq_of_perm (o : EngineOptions ℚ) (profiles : List (Profile ℚ))
    (h : population.Perm population') :
    o.price profiles population = o.price profiles population' := by
  funext r
  cases hwinner : Profile.match? r profiles with
  | none => rw [o.price_of_match?_eq_none hwinner, o.price_of_match?_eq_none hwinner]
  | some p =>
    rw [o.price_of_match?_eq_some hwinner, o.price_of_match?_eq_some hwinner]
    exact o.allocation.breakdown_eq_of_perm p h r

end Breakdowns

/-! ## Totals -/

namespace Totals

/-- Two breakdowns can be added to what their profiles price in either order. -/
theorem addToProfile_comm (m : TextMap (ProfileTotals ℚ)) (b b' : Breakdown ℚ) :
    addToProfile (addToProfile m b) b' = addToProfile (addToProfile m b') b := by
  unfold addToProfile
  cases b.profile? with
  | none => rfl
  | some name =>
    cases b'.profile? with
    | none => rfl
    | some name' =>
      refine TextMap.alter_alter_comm m fun _ old => ?_
      show ProfileTotals.mk _ _ = ProfileTotals.mk _ _
      congr 1
      exact add_right_comm ..

/-- Two items can be added to what their components cost in either order. -/
theorem addToComponent_comm (m : TextMap ℚ) (i i' : LineItem ℚ) :
    addToComponent (addToComponent m i) i' = addToComponent (addToComponent m i') i :=
  TextMap.alter_alter_comm m fun _ _ => add_right_comm ..

instance : RightCommutative (addToProfile (α := ℚ)) := ⟨addToProfile_comm⟩

instance : RightCommutative (addToComponent (α := ℚ)) := ⟨addToComponent_comm⟩

theorem of_eq_of_perm {inventory inventory' : List (Resource ℚ)}
    (hinventory : inventory.Perm inventory') {breakdowns breakdowns' : List (Breakdown ℚ)}
    (h : breakdowns.Perm breakdowns') : of inventory breakdowns = of inventory' breakdowns' := by
  have hcapacity : Capacity.of inventory = Capacity.of inventory' := by
    unfold Capacity.of
    rw [Scalar.sum_eq_of_perm (hinventory.map _), Scalar.sum_eq_of_perm (hinventory.map _),
      Scalar.sum_eq_of_perm (hinventory.map _)]
  have hitems : (breakdowns.flatMap Breakdown.items).Perm (breakdowns'.flatMap Breakdown.items) :=
    h.flatMap_right _
  unfold of
  rw [h.length_eq, h.countP_eq, h.countP_eq, Scalar.sum_eq_of_perm (h.map _),
    Scalar.sum_eq_of_perm (h.map _), Scalar.sum_eq_of_perm (h.map _),
    Scalar.sum_eq_of_perm (h.map _), h.foldl_eq, hitems.foldl_eq, hcapacity]

end Totals

/-- An inventory in another order, given by the places that its resources come from. -/
def reordered {ι : Type} (l : List ι) (σ : Equiv.Perm (Fin l.length)) : List ι :=
  List.ofFn fun i => l.get (σ i)

theorem reordered_perm {ι : Type} (l : List ι) (σ : Equiv.Perm (Fin l.length)) :
    (reordered l σ).Perm l := by
  have h := Equiv.Perm.ofFn_comp_perm σ l.get
  rwa [List.ofFn_get] at h

/-- In whatever order the resources of an inventory stand, each of them has the same breakdown, and
the totals are the same in all their parts. -/
theorem EngineOptions.portfolio_reordered (o : EngineOptions ℚ) (profiles : List (Profile ℚ))
    (inventory : List (Resource ℚ)) (σ : Equiv.Perm (Fin inventory.length)) :
    let (breakdowns, totals) := o.portfolio profiles inventory
    let (breakdowns', totals') := o.portfolio profiles (reordered inventory σ)
    breakdowns.length = inventory.length ∧ breakdowns'.length = inventory.length ∧
      (∀ i : Fin inventory.length, breakdowns'[(i : ℕ)]? = breakdowns[(σ i : ℕ)]?) ∧
      totals' = totals := by
  have hperm := reordered_perm inventory σ
  have hbreakdowns := o.priceAll_eq_map profiles inventory
  have hreordered : o.priceAll profiles (reordered inventory σ) =
      (reordered inventory σ).map (o.price profiles inventory) := by
    rw [priceAll_eq_map, o.price_eq_of_perm profiles hperm]
  refine ⟨o.length_priceAll profiles inventory, ?_, fun i => ?_, ?_⟩
  · exact (o.length_priceAll profiles _).trans hperm.length_eq
  · show (o.priceAll profiles (reordered inventory σ))[(i : ℕ)]? =
      (o.priceAll profiles inventory)[(σ i : ℕ)]?
    rw [hbreakdowns, getElem?_map_get, hreordered, List.getElem?_map, reordered,
      List.getElem?_ofFn, dif_pos i.isLt]
    rfl
  · show Totals.of _ _ = Totals.of _ _
    refine Totals.of_eq_of_perm hperm ?_
    rw [hbreakdowns, hreordered]
    exact hperm.map _

end Chargeback
