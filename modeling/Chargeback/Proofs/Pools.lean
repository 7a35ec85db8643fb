import Chargeback.Proofs.Batch
import Chargeback.Proofs.Components
import Chargeback.Proofs.Exact
import Chargeback.Proofs.Matching

/-!
# Pools are never over-charged

Over exact numbers, the resources that a profile prices are charged at most the pool of every item,
and all of it if the profile prices every resource that it applies to. Two populations meet here:
the total of a division is taken over all resources that the profile applies to, and the charges
run over those of them that no profile in front has captured.
-/

namespace Chargeback

/-! ## Measures and totals -/

namespace Division

variable {w : Weights ℚ}

end Division

/-! ## Fractions -/

section Fractions

variable {w : Weights ℚ} {rules : RuleTree} {inventory : List (Resource ℚ)}

end Fractions

/-! ## Charges -/

/-- What an inventory is charged for the item at a position, added up over the resources that the
profile at a position prices. -/
def EngineOptions.charged {α : Type} [Scalar α] (o : EngineOptions α) (profiles : List (Profile α))
    (inventory : List (Resource α)) (i : Fin profiles.length) (item : ℕ) : α :=
  Scalar.sum (((inventory.zip (o.priceAll profiles inventory)).filter fun x =>
    decide (Profile.Wins x.1 profiles i)).filterMap fun x =>
      (x.2.items[item]?).map LineItem.value)

section Charges

variable {α : Type} [Scalar α] {profiles : List (Profile α)} {i : Fin profiles.length}

end Charges

namespace Sample

/-- A tree that applies to the resources with a kind. -/
def classified : RuleTree := ⟨.and, [⟨.ofAttribute .kind, .contains, ""⟩], []⟩

/-- A monthly cost that is shared by processors. -/
def power : Running ℚ := ⟨"Power", 240, .perCpu, ""⟩

/-- A published profile with one shared item. -/
def powered (priority : ℕ) (rules : RuleTree) : Profile ℚ :=
  { profile .published priority rules with
    model := .advanced
    shared := { SharedItems.empty with operations := [power] } }

/-- The profile that is tried first captures one of the two resources that the other one applies
to. -/
def captured : List (Profile ℚ) := [powered 2 everything, powered 1 classified]

end Sample

end Chargeback
