import Chargeback.Matching
import Chargeback.Pricing.Charge

/-!
# Pricing an inventory

Every resource is priced by the first profile that applies to it, and the whole inventory shares
the pools. One resource can be priced alone, which looks at all profiles and resources anew, or all
at once, which orders the profiles and adds up their pools a single time.
-/

namespace Chargeback

variable {α : Type} [Scalar α]

/-- How the pricing of an inventory can be set up. -/
structure EngineOptions (α : Type) where
  allocation : AllocationOptions α
  /-- From how many resources on the work is shared out; with zero it never is. -/
  parallelThreshold : Nat
deriving DecidableEq

/-- How the work on a list is shared out: one worker does all of it, or it is cut in the middle and
both halves are shared out in turn. -/
inductive Sharing where
  | whole
  | halves (front back : Sharing)
deriving DecidableEq, Repr

/-- The images of the items of a list, worked out part by part and put together in order. -/
def Sharing.map {ι κ : Type} (f : ι → κ) : Sharing → List ι → List κ
  | whole, l => l.map f
  | halves front back, l =>
    front.map f (l.take (l.length / 2)) ++ back.map f (l.drop (l.length / 2))

/-- A candidate with the totals of its pools, which only the advanced model has. -/
structure Offer (α : Type) where
  profile : Profile α
  totals : Option (PoolTotals α)

namespace EngineOptions

/-- The usual options. -/
def standard : EngineOptions α where
  allocation := .standard
  parallelThreshold := 256

/-- The breakdown of one resource of a population. -/
def price (o : EngineOptions α) (profiles : List (Profile α)) (population : List (Resource α))
    (r : Resource α) : Breakdown α :=
  match Profile.match? r profiles with
  | some p => o.allocation.breakdown p population r
  | none => .uncosted r

/-- The candidate with the totals that it needs. -/
def offer (o : EngineOptions α) (population : List (Resource α)) (p : Profile α) : Offer α where
  profile := p
  totals := match p.model with
    | .simple => none
    | .advanced => some (o.allocation.poolTotals p population)

/-- The breakdown of a resource under the first of some offers that applies. -/
def priceAmong (o : EngineOptions α) (offers : List (Offer α)) (r : Resource α) : Breakdown α :=
  match (Profile.search r (offers.map Offer.profile)).position.bind (offers[·]?) with
  | some offer => o.allocation.breakdownWith offer.profile (offer.totals.getD .none) r
  | none => .uncosted r

/-- Whether the work on so many resources is shared out. -/
def sharesOut (o : EngineOptions α) (count : Nat) : Bool :=
  0 < o.parallelThreshold && o.parallelThreshold ≤ count

/-- The breakdowns of all resources of an inventory, in its order, where a large inventory is shared
out among workers. -/
def priceShared (o : EngineOptions α) (sharing : Sharing) (profiles : List (Profile α))
    (inventory : List (Resource α)) : List (Breakdown α) :=
  let offers := (Profile.candidates profiles).map (o.offer inventory)
  if o.sharesOut inventory.length then sharing.map (o.priceAmong offers) inventory
  else inventory.map (o.priceAmong offers)

/-- The breakdowns of all resources of an inventory, in its order. -/
def priceAll (o : EngineOptions α) (profiles : List (Profile α)) (inventory : List (Resource α)) :
    List (Breakdown α) :=
  o.priceShared .whole profiles inventory

/-- The document of the options. -/
def toJson (o : EngineOptions Float) : Json :=
  .obj [("allocation", o.allocation.toJson), ("parallel_threshold", .ofNat o.parallelThreshold)]

/-- Reads options; missing ones are as usual. -/
def read? (j : Json) : Option (EngineOptions Float) := do
  guard (j.isRecord 2)
  let allocation ← j.optional? 0 ["allocation"] .standard AllocationOptions.read?
  let parallelThreshold ← j.optional? 1 ["parallel_threshold"] 256 (Json.natBelow? UInt64.size)
  return { allocation, parallelThreshold }

end EngineOptions

end Chargeback
