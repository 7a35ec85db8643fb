import Chargeback.Report.Resources

/-!
# The report on allocations

What every resource costs: all resources, those that a search finds, or those that cost nothing.
-/

namespace Chargeback.Report

/-- The name of the profile of a breakdown, or a word for none. -/
def profileName (b : Breakdown Float) : String := b.profile?.getD "None"

/-- The warning about so many resources that cost nothing. -/
def uncostedWarning (count : Nat) : String :=
  warning (Number.natText count ++ " resource(s) matched no published cost profile")

namespace Allocations

/-- A resource with its breakdown. -/
abbrev Allocation := Resource Float × Breakdown Float

/-- Whether a search finds an allocation: in the name or the owner of the resource, or in the name
of the profile. -/
def isFound (needle : List Char) (a : Allocation) : Bool :=
  isFoundIn needle a.1.name || isFoundIn needle a.1.owner ||
    (a.2.profile?.map (isFoundIn needle)).getD false

/-- The allocations that are asked for, in order. -/
def select (search : Option String) (uncostedOnly : Bool) (allocations : List Allocation) :
    List Allocation :=
  let found := match search with
    | some s => allocations.filter (isFound (Text.lower s.toList))
    | none => allocations
  found.filter fun a => !uncostedOnly || !a.2.isCosted

/-- The names of the columns. -/
def header : List String :=
  ["VM Name", "Owner", "CPU", "Memory (GB)", "Storage (GB)", "Matched Profile", "Monthly",
   "One-Time"]

/-- The cells of an allocation. -/
def row (currency : String) (a : Allocation) : List String :=
  [a.1.name, a.1.owner, Scalar.display a.1.cpu, Scalar.display a.1.memory,
   Scalar.display a.1.storage, profileName a.2, Money.inCurrency currency a.2.monthly,
   Money.inCurrency currency a.2.oneTime]

/-- The monthly total of the allocations. The sum starts at the zero that changes no sum, which has
a minus sign. -/
def monthly (allocations : List Allocation) : Float :=
  (allocations.map fun a => a.2.monthly).foldl (· + ·) (-0.0)

/-- How many of the allocations cost nothing. -/
def uncosted (allocations : List Allocation) : Nat :=
  allocations.countP fun a => !a.2.isCosted

/-- The report for people. The warning is left out if only uncosted resources are asked for. -/
def lines (currency : String) (uncostedOnly : Bool) (allocations : List Allocation) :
    List String :=
  table header (allocations.map (row currency)) ++
    ["", Number.natText allocations.length ++ " resources, monthly total " ++
      Money.inCurrency currency (monthly allocations)] ++
    if 0 < uncosted allocations && !uncostedOnly then [uncostedWarning (uncosted allocations)]
    else []

/-- The report as a document. -/
def toJson (allocations : List Allocation) : Json :=
  .ofList (fun a => Breakdown.toJson a.2) allocations

end Allocations

end Chargeback.Report
