import Chargeback.Json.Record

/-!
# Cost components

What a profile charges for. A rate charges a resource by its own capacity or at a flat amount. A
shared item is a pool that the resources of the profile pay together: hardware is bought once and
written off over years, all other items cost the same every month. Shared items stand in four
lists, and the list decides whether an item counts as capital or as operating expense.
-/

namespace Chargeback

/-- What the value of a rate is multiplied by. -/
inductive RateBasis where
  | perCpu
  | perMemory
  | perStorage
  | fixedMonthly
  /-- A charge at the start, spread over months. -/
  | oneTime
  /-- A basis that no profile knows; the value is charged as it is every month. -/
  | unknown
deriving DecidableEq, Repr

/-- A charge per resource. -/
structure Rate (α : Type) where
  name : String
  basis : RateBasis
  /-- The price of one unit. -/
  value : α
  /-- How the price is quoted, for people to read. -/
  frequency : String
  /-- What the charge is booked under; the basis decides if this is empty. -/
  category : String
deriving DecidableEq

/-- How a pool is divided among the resources of a profile. -/
inductive Division where
  | perVm
  | perCpu
  | perMemory
  | perStorage
  /-- By a score of all capacities. -/
  | weighted
  /-- A division that no profile knows; the pool is divided by resource. -/
  | unknown
deriving DecidableEq, Repr

/-- Hardware, bought at a price and written off over years. -/
structure Hardware (α : Type) where
  name : String
  purchasePrice : α
  depreciationYears : α
  division : Division
  category : String
deriving DecidableEq

/-- An item that costs the same every month. -/
structure Running (α : Type) where
  name : String
  monthlyCost : α
  division : Division
  category : String
deriving DecidableEq

/-- The items that the resources of a profile share. -/
structure SharedItems (α : Type) where
  hardware : List (Hardware α)
  operations : List (Running α)
  facilities : List (Running α)
  software : List (Running α)
deriving DecidableEq

/-- The lists of a profile that items stand in. -/
inductive ItemList where
  | rates
  | hardware
  | operations
  | facilities
  | software
deriving DecidableEq, Repr

namespace RateBasis

/-- The name of a basis. -/
def name : RateBasis → String
  | perCpu => "per-cpu"
  | perMemory => "per-memory"
  | perStorage => "per-storage"
  | fixedMonthly => "fixed-monthly"
  | oneTime => "one-time"
  | unknown => "unknown"

/-- What a rate is booked under if it does not say. -/
def category : RateBasis → String
  | perCpu | perMemory | perStorage => "hardware"
  | fixedMonthly => "operations"
  | oneTime | unknown => "other"

/-- The accepted names. -/
def names : List (String × RateBasis) :=
  [("per-cpu", perCpu), ("cpu", perCpu), ("per_cpu", perCpu),
   ("per-memory", perMemory), ("memory", perMemory), ("per_memory", perMemory),
   ("per-storage", perStorage), ("storage", perStorage), ("per_storage", perStorage),
   ("fixed-monthly", fixedMonthly), ("fixed", fixedMonthly), ("fixed_monthly", fixedMonthly),
   ("one-time", oneTime), ("one_time", oneTime)]

/-- The basis of a name; every other name is unknown. -/
def ofName (name : String) : RateBasis := (names.lookup name).getD unknown

end RateBasis

namespace Division

/-- The name of a division. -/
def name : Division → String
  | perVm => "per-vm"
  | perCpu => "per-cpu"
  | perMemory => "per-memory"
  | perStorage => "per-storage"
  | weighted => "weighted"
  | unknown => "unknown"

/-- The accepted names. -/
def names : List (String × Division) :=
  [("per-vm", perVm), ("per_vm", perVm), ("per-cpu", perCpu), ("per_cpu", perCpu),
   ("per-memory", perMemory), ("per_memory", perMemory), ("per-storage", perStorage),
   ("per_storage", perStorage), ("weighted", weighted)]

/-- The division of a name; every other name is unknown. -/
def ofName (name : String) : Division := (names.lookup name).getD unknown

/-- Reads a division. -/
def read? (j : Json) : Option Division := j.variant?.map ofName

end Division

namespace ItemList

/-- The name of a list of shared items, which is also what its items are booked under if they do
not say. -/
def name : ItemList → String
  | rates => "rates"
  | hardware => "hardware"
  | operations => "operations"
  | facilities => "facilities"
  | software => "software"

end ItemList

namespace SharedItems

variable {α : Type}

/-- No items at all. -/
def empty : SharedItems α := ⟨[], [], [], []⟩

/-- The number of items in all lists. -/
def size (s : SharedItems α) : Nat :=
  s.hardware.length + s.operations.length + s.facilities.length + s.software.length

/-- The lists of items with a monthly cost, in the order in which they are charged. -/
def runningLists (s : SharedItems α) : List (ItemList × List (Running α)) :=
  [(.operations, s.operations), (.facilities, s.facilities), (.software, s.software)]

end SharedItems

/-! ## Documents -/

namespace Rate

/-- The document of a rate. -/
def toJson (c : Rate Float) : Json :=
  .obj [("name", .str c.name), ("type", .str c.basis.name), ("value", .ofFloat c.value),
    ("frequency", .str c.frequency), ("category", .str c.category)]

/-- Reads a rate. Every field may be missing, and the value is lenient. -/
def read? (j : Json) : Option (Rate Float) := do
  guard (j.isRecord 5)
  let name ← j.optional? 0 ["name"] "" Json.str?
  let basis ← j.optional? 1 ["type"] .unknown fun v => v.variant?.map RateBasis.ofName
  let value ← j.optional? 2 ["value"] 0.0 (Json.lenient? Json.lenientFloat)
  let frequency ← j.optional? 3 ["frequency", "unit"] "" Json.str?
  let category ← j.optional? 4 ["category"] "" Json.str?
  return { name, basis, value, frequency, category }

end Rate

namespace Hardware

/-- The document of a hardware item. -/
def toJson (c : Hardware Float) : Json :=
  .obj [("name", .str c.name), ("purchasePrice", .ofFloat c.purchasePrice),
    ("depreciationYears", .ofFloat c.depreciationYears),
    ("allocationMethod", .str c.division.name), ("category", .str c.category)]

/-- Reads a hardware item. Every field may be missing, and the numbers are lenient. -/
def read? (j : Json) : Option (Hardware Float) := do
  guard (j.isRecord 5)
  let name ← j.optional? 0 ["name"] "" Json.str?
  let purchasePrice ← j.optional? 1 ["purchasePrice"] 0.0 (Json.lenient? Json.lenientFloat)
  let depreciationYears ← j.optional? 2 ["depreciationYears"] 0.0 (Json.lenient? Json.lenientFloat)
  let division ← j.optional? 3 ["allocationMethod"] .perVm Division.read?
  let category ← j.optional? 4 ["category"] "" Json.str?
  return { name, purchasePrice, depreciationYears, division, category }

end Hardware

namespace Running

/-- The document of an item with a monthly cost. -/
def toJson (c : Running Float) : Json :=
  .obj [("name", .str c.name), ("monthlyCost", .ofFloat c.monthlyCost),
    ("allocationMethod", .str c.division.name), ("category", .str c.category)]

/-- Reads an item with a monthly cost. Every field may be missing, and the cost is lenient. -/
def read? (j : Json) : Option (Running Float) := do
  guard (j.isRecord 4)
  let name ← j.optional? 0 ["name"] "" Json.str?
  let monthlyCost ← j.optional? 1 ["monthlyCost"] 0.0 (Json.lenient? Json.lenientFloat)
  let division ← j.optional? 2 ["allocationMethod"] .perVm Division.read?
  let category ← j.optional? 3 ["category"] "" Json.str?
  return { name, monthlyCost, division, category }

end Running

namespace SharedItems

/-- The document of the shared items. -/
def toJson (s : SharedItems Float) : Json :=
  .obj [("hardware", .ofList Hardware.toJson s.hardware),
    ("operations", .ofList Running.toJson s.operations),
    ("facilities", .ofList Running.toJson s.facilities),
    ("software", .ofList Running.toJson s.software)]

/-- Reads the shared items. Every list may be missing. -/
def read? (j : Json) : Option (SharedItems Float) := do
  guard (j.isRecord 4)
  let hardware ← j.optional? 0 ["hardware"] [] (Json.list? Hardware.read?)
  let operations ← j.optional? 1 ["operations"] [] (Json.list? Running.read?)
  let facilities ← j.optional? 2 ["facilities"] [] (Json.list? Running.read?)
  let software ← j.optional? 3 ["software"] [] (Json.list? Running.read?)
  return { hardware, operations, facilities, software }

end SharedItems

end Chargeback
