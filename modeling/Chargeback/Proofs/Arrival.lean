import Mathlib.Data.List.InsertIdx
import Chargeback.Proofs.Batch
import Chargeback.Proofs.ListEdits

/-!
# One resource more

An inventory is compared with the inventory that has one resource more, at any place. Matching does
not read the inventory at all, so every resource keeps its winner. A breakdown reads it only for the
totals of the pools of an advanced profile, and these are the totals of the resources that the profile
applies to, in order. So a resource that the profile does not apply to leaves the totals as they are,
to the last bit, wherever it stands.
-/

namespace Chargeback

section Members

variable {α : Type} [Scalar α] {population population' : List (Resource α)}

/-- The breakdowns under a profile read the population for the resources that an advanced profile
applies to, and for nothing else. -/
theorem AllocationOptions.breakdown_eq_of_members_eq (o : AllocationOptions α) {p : Profile α}
    (h : p.model = .advanced → population.filter p.applies = population'.filter p.applies)
    (r : Resource α) : o.breakdown p population r = o.breakdown p population' r := by
  cases hmodel : p.model with
  | simple =>
    unfold breakdown
    rw [hmodel]
  | advanced =>
    have htotals : o.poolTotals p population = o.poolTotals p population' :=
      congrArg (PoolTotals.ofMembers o.weights) (h hmodel)
    unfold breakdown
    rw [hmodel, htotals]

namespace EngineOptions

variable (o : EngineOptions α) {profiles : List (Profile α)} {r : Resource α}

theorem price_eq_of_members_eq
    (h : ∀ p, Profile.match? r profiles = some p → p.model = .advanced →
      population.filter p.applies = population'.filter p.applies) :
    o.price profiles population r = o.price profiles population' r := by
  cases hwinner : Profile.match? r profiles with
  | none => rw [o.price_of_match?_eq_none hwinner, o.price_of_match?_eq_none hwinner]
  | some p =>
    rw [o.price_of_match?_eq_some hwinner, o.price_of_match?_eq_some hwinner]
    exact o.allocation.breakdown_eq_of_members_eq (h p hwinner) r

/-- With one resource more, wherever it stands and however the work is shared out, every other
resource is priced by the profile that it had, or by none as before. Its breakdown is the same, unless
that profile is an advanced one that applies to the new resource. Read from right to left, this says
what the removal of a resource changes. -/
theorem priceShared_insertIdx (sharing sharing' : Sharing) (profiles : List (Profile α))
    (inventory : List (Resource α)) (x : Resource α) (k : Fin (inventory.length + 1)) :
    let joined := inventory.insertIdx k x
    let before := o.priceShared sharing profiles inventory
    let after := o.priceShared sharing' profiles joined
    let kept := after.eraseIdx k
    joined.eraseIdx k = inventory ∧ after.length = inventory.length + 1 ∧
      before.length = inventory.length ∧ kept.length = inventory.length ∧
      ∀ i : Fin inventory.length,
        let r := inventory.get i
        ∃ b b', before[(i : ℕ)]? = some b ∧ kept[(i : ℕ)]? = some b' ∧
          (∀ p, Profile.match? r profiles = some p →
            b = o.allocation.breakdown p inventory r ∧
              b' = o.allocation.breakdown p joined r) ∧
          (Profile.match? r profiles = none → b = .uncosted r ∧ b' = .uncosted r) ∧
          ((∀ p, Profile.match? r profiles = some p → p.model = .advanced →
            p.applies x = false) → b' = b) := by
  intro joined before after kept
  have hbefore : before = inventory.map (o.price profiles inventory) :=
    o.priceShared_eq_map profiles inventory sharing
  have hkept : kept = inventory.map (o.price profiles joined) := by
    show (o.priceShared sharing' profiles joined).eraseIdx k = _
    rw [priceShared_eq_map, List.map_insertIdx, List.eraseIdx_insertIdx_self]
  have hafter : after.length = inventory.length + 1 := by
    show (o.priceShared sharing' profiles joined).length = _
    rw [priceShared_eq_map, List.length_map]
    exact List.length_insertIdx_of_le_length (Nat.le_of_lt_succ k.isLt) x
  refine ⟨List.eraseIdx_insertIdx_self x, hafter, by rw [hbefore, List.length_map],
    by rw [hkept, List.length_map], ?_⟩
  intro i r
  refine ⟨o.price profiles inventory r, o.price profiles joined r, ?_, ?_, ?_, ?_, ?_⟩
  · rw [hbefore, getElem?_map_get]
  · rw [hkept, getElem?_map_get]
  · intro p hp
    exact ⟨o.price_of_match?_eq_some hp inventory, o.price_of_match?_eq_some hp joined⟩
  · intro hnone
    exact ⟨o.price_of_match?_eq_none hnone inventory, o.price_of_match?_eq_none hnone joined⟩
  · intro hunmet
    refine o.price_eq_of_members_eq fun p hp hmodel => ?_
    exact filter_insertIdx_of_neg (hunmet p hp hmodel) inventory k

end EngineOptions

end Members

end Chargeback
