import Chargeback.Profile.Basic

/-!
# Pools

How the cost of a shared item is divided among the resources that its profile applies to. Every
division measures a resource, adds the measures of all these resources up, and charges a resource
for its part of the total. A total that is zero counts as one, so every part is defined.
-/

namespace Chargeback

variable {α : Type} [Scalar α]

/-- The distance from one to the next larger double. Totals below it count as zero. -/
def leastTotal : α := Scalar.ofNat 1 / Scalar.ofNat (Nat.pow 2 52)

/-- A number to divide by: itself, or one if it is no number or as good as zero. -/
def divisor (x : α) : α :=
  if !Scalar.isFinite x || Scalar.less (Scalar.abs x) leastTotal then Scalar.ofNat 1 else x

/-- How the weighted division adds up the capacities of a resource. -/
structure Weights (α : Type) where
  cpu : α
  memory : α
  storage : α
  /-- Storage is divided by this before it is weighed. -/
  storageDivisor : α
deriving DecidableEq

namespace Weights

/-- Four parts processors, four parts memory, and two parts storage in hundreds of gigabytes. -/
def standard : Weights α where
  cpu := Scalar.ofNat 4 / Scalar.ofNat 10
  memory := Scalar.ofNat 4 / Scalar.ofNat 10
  storage := Scalar.ofNat 2 / Scalar.ofNat 10
  storageDivisor := Scalar.ofNat 100

/-- The weighted capacities of a resource. -/
def score (w : Weights α) (r : Resource α) : α :=
  w.cpu * r.cpu + w.memory * r.memory + w.storage * (r.storage / divisor w.storageDivisor)

/-- The document of the weights. -/
def toJson (w : Weights Float) : Json :=
  .obj [("cpu", .ofFloat w.cpu), ("memory", .ofFloat w.memory), ("storage", .ofFloat w.storage),
    ("storage_divisor", .ofFloat w.storageDivisor)]

/-- Reads weights; missing ones are as usual. -/
def read? (j : Json) : Option (Weights Float) := do
  guard (j.isRecord 4)
  let cpu ← j.optional? 0 ["cpu"] standard.cpu Json.float?
  let memory ← j.optional? 1 ["memory"] standard.memory Json.float?
  let storage ← j.optional? 2 ["storage"] standard.storage Json.float?
  let storageDivisor ← j.optional? 3 ["storage_divisor"] standard.storageDivisor Json.float?
  return { cpu, memory, storage, storageDivisor }

end Weights

/-- The totals over the resources that share the pools of a profile. -/
structure PoolTotals (α : Type) where
  count : Nat
  cpu : α
  memory : α
  storage : α
  score : α
deriving DecidableEq

namespace PoolTotals

/-- The totals of no resource. -/
def none : PoolTotals α := ⟨0, Scalar.zero, Scalar.zero, Scalar.zero, Scalar.zero⟩

/-- The totals of the resources of a list. -/
def ofMembers (w : Weights α) (members : List (Resource α)) : PoolTotals α where
  count := members.length
  cpu := Scalar.sum (members.map Resource.cpu)
  memory := Scalar.sum (members.map Resource.memory)
  storage := Scalar.sum (members.map Resource.storage)
  score := Scalar.sum (members.map w.score)

/-- The totals of those resources of a population that match the rules of a profile. -/
def compute (w : Weights α) (rules : RuleTree) (population : List (Resource α)) : PoolTotals α :=
  ofMembers w (population.filter fun r => rules.isMatch r)

end PoolTotals

namespace Division

/-- The division that is used for a named one: an unknown one divides by resource. -/
def applied : Division → Division
  | unknown => perVm
  | known => known

/-- What a division measures of a resource. -/
def measure (w : Weights α) (r : Resource α) : Division → α
  | perCpu => r.cpu
  | perMemory => r.memory
  | perStorage => r.storage
  | weighted => w.score r
  | perVm => Scalar.ofNat 1
  | unknown => Scalar.ofNat 1

/-- The total of what a division measures. -/
def total (t : PoolTotals α) : Division → α
  | perCpu => t.cpu
  | perMemory => t.memory
  | perStorage => t.storage
  | weighted => t.score
  | perVm => Scalar.ofNat t.count
  | unknown => Scalar.ofNat t.count

/-- What is measured. -/
def unit : Division → String
  | perCpu => "CPUs"
  | perMemory => "GB memory"
  | perStorage => "GB storage"
  | weighted => "score"
  | perVm => "VMs"
  | unknown => "VMs"

end Division

/-- The part of a pool that a resource is charged for. -/
structure Share (α : Type) where
  /-- The division that was used. -/
  division : Division
  fraction : α
  /-- The measure of the resource and the total, in words. -/
  basis : String
  /-- Whether the named division was unknown. -/
  degraded : Bool
deriving DecidableEq

namespace Share

/-- A measure and its total, in words. -/
def basisText (division : Division) (measure total : α) : String :=
  match division with
  | .weighted => "score " ++ Scalar.money measure ++ " of " ++ Scalar.money total
  | division => Scalar.display measure ++ " of " ++ Scalar.display total ++ " " ++ division.unit

/-- The share of a resource. -/
def of (w : Weights α) (totals : PoolTotals α) (named : Division) (r : Resource α) : Share α :=
  let division := named.applied
  let measure := division.measure w r
  let total := divisor (division.total totals)
  { division
    fraction := measure / total
    basis := basisText division measure total
    degraded := named = .unknown }

/-- A share in words. -/
def text (s : Share α) : String :=
  Scalar.money (s.fraction * Scalar.ofNat 100) ++ "% (" ++ s.division.name ++ ", " ++ s.basis ++ ")"

end Share

end Chargeback
