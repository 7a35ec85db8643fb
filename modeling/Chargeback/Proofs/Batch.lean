import Chargeback.Portfolio.Pricing

/-!
# Pricing all at once is pricing each alone

Pricing a whole inventory orders the profiles and adds up their pools once, and picks what it needs
by the position of the match; it may also share the resources out among workers. None of this shows
in the result: every breakdown is the one that pricing its resource alone gives.
-/

namespace Chargeback

/-- However the work on a list is shared out, the images are those of the items, in order. -/
theorem Sharing.map_eq {ι κ : Type} (f : ι → κ) (sharing : Sharing) (l : List ι) :
    sharing.map f l = l.map f := by
  induction sharing generalizing l with
  | whole => rfl
  | halves front back ihfront ihback =>
    rw [Sharing.map, ihfront, ihback, ← List.map_append, List.take_append_drop]

/-- The image of the item at a place stands at the same place. -/
theorem getElem?_map_get {ι κ : Type} (f : ι → κ) {l : List ι} (i : Fin l.length) :
    (l.map f)[(i : Nat)]? = some (f (l.get i)) := by
  rw [List.getElem?_map, List.getElem?_eq_getElem i.isLt]
  rfl

namespace EngineOptions

variable {α : Type} [Scalar α] (o : EngineOptions α)

section Price

variable {profiles : List (Profile α)} {r : Resource α}

theorem price_of_match?_eq_some {p : Profile α} (h : Profile.match? r profiles = some p)
    (inventory : List (Resource α)) :
    o.price profiles inventory r = o.allocation.breakdown p inventory r := by
  rw [price, h]

theorem price_of_match?_eq_none (h : Profile.match? r profiles = none)
    (inventory : List (Resource α)) : o.price profiles inventory r = .uncosted r := by
  rw [price, h]

end Price

variable (profiles : List (Profile α)) (inventory : List (Resource α))

theorem map_profile_offer (candidates : List (Profile α)) :
    (candidates.map (o.offer inventory)).map Offer.profile = candidates := by
  rw [List.map_map]
  exact List.map_id candidates

/-- The totals that a candidate is offered with are those that its breakdowns ask for. -/
theorem breakdownWith_offer (p : Profile α) (r : Resource α) :
    o.allocation.breakdownWith p ((o.offer inventory p).totals.getD .none) r =
      o.allocation.breakdown p inventory r := by
  unfold offer AllocationOptions.breakdown
  cases p.model with
  | simple => rfl
  | advanced => rfl

/-- The offers are in the order of the candidates, so the match has the same position in both. -/
theorem priceAmong_offers (r : Resource α) :
    o.priceAmong ((Profile.candidates profiles).map (o.offer inventory)) r =
      o.price profiles inventory r := by
  rw [priceAmong, map_profile_offer, price, Profile.match?]
  cases (Profile.search r (Profile.candidates profiles)).position with
  | none => rfl
  | some k =>
    rw [Option.bind_some, Option.bind_some, List.getElem?_map]
    cases (Profile.candidates profiles)[k]? with
    | none => rfl
    | some p => exact breakdownWith_offer o inventory p r

theorem priceShared_eq_map (sharing : Sharing) :
    o.priceShared sharing profiles inventory = inventory.map (o.price profiles inventory) := by
  have heach : o.priceAmong ((Profile.candidates profiles).map (o.offer inventory)) =
      o.price profiles inventory := funext (priceAmong_offers o profiles inventory)
  rw [priceShared, Sharing.map_eq, heach, ite_self]

theorem priceAll_eq_map :
    o.priceAll profiles inventory = inventory.map (o.price profiles inventory) :=
  priceShared_eq_map o profiles inventory .whole

theorem length_priceAll : (o.priceAll profiles inventory).length = inventory.length := by
  rw [priceAll_eq_map, List.length_map]

/-- No breakdown is lost where each stands beside its resource. -/
theorem map_zip_priceAll {κ : Type} (f : Breakdown α → κ) :
    (inventory.zip (o.priceAll profiles inventory)).map (fun a => f a.2) =
      (o.priceAll profiles inventory).map f := by
  have hbreakdowns : (inventory.zip (o.priceAll profiles inventory)).map Prod.snd =
      o.priceAll profiles inventory :=
    List.map_snd_zip (Nat.le_of_eq (length_priceAll o profiles inventory))
  have hmapped := congrArg (List.map f) hbreakdowns
  rwa [List.map_map] at hmapped

/-- Pricing an inventory gives one breakdown for every resource, the one that pricing the resource
alone gives, whatever the options are and however the work is shared out. -/
theorem priceShared_agrees_with_price (sharing : Sharing) :
    (o.priceShared sharing profiles inventory).length = inventory.length ∧
      ∀ i : Fin inventory.length, (o.priceShared sharing profiles inventory)[(i : Nat)]? =
        some (o.price profiles inventory (inventory.get i)) := by
  rw [priceShared_eq_map]
  refine ⟨List.length_map _, fun i => ?_⟩
  rw [List.getElem?_map, List.getElem?_eq_getElem i.isLt]
  rfl

end EngineOptions

end Chargeback
