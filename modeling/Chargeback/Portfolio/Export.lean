import Chargeback.Csv
import Chargeback.Portfolio.Totals

/-!
# The exported table

The breakdowns of an inventory as a table with one row per item. The totals of a resource stand in
its first row only, so that every column adds up. A resource without a profile has one row that
says so, and a resource without items one row without a component.
-/

namespace Chargeback.Export

variable {α : Type} [Scalar α]

/-- The names of the columns. -/
def header : List String :=
  ["VM Name", "Owner", "CPU", "Memory", "Storage", "Matched Profile", "Component", "Type",
   "Category", "Cost", "Total Monthly", "Total One-Time", "CapEx", "OpEx"]

/-- The cells that every row of a resource begins with. -/
def resourceCells (r : Resource α) : List String :=
  [r.name, r.owner, Scalar.display r.cpu, Scalar.display r.memory, Scalar.display r.storage]

/-- The totals of a breakdown. -/
def totalCells (b : Breakdown α) : List String :=
  [Scalar.money b.monthly, Scalar.money b.oneTime, Scalar.money b.capex, Scalar.money b.opex]

/-- The cells of an item. -/
def itemCells (i : LineItem α) : List String :=
  [i.name, i.kind, i.category, Scalar.money i.value]

/-- The rows of a resource with a profile: one per item, the totals in the first. -/
def itemRows (r : Resource α) (b : Breakdown α) (profile : String) : List (List String) :=
  match b.items with
  | [] => [resourceCells r ++ [profile, "", "", "", "0.00"] ++ totalCells b]
  | first :: rest =>
    (resourceCells r ++ profile :: itemCells first ++ totalCells b) ::
      rest.map fun i => resourceCells r ++ profile :: itemCells i ++ ["", "", "", ""]

/-- The rows of a resource. -/
def rows (r : Resource α) (b : Breakdown α) : List (List String) :=
  match b.profile? with
  | some profile => itemRows r b profile
  | none =>
    [resourceCells r ++
      ["None", "No cost profile matched", "", "", "0.00", "0.00", "0.00", "0.00", "0.00"]]

/-- The table of an inventory and its breakdowns, paired in order. -/
def table (inventory : List (Resource α)) (breakdowns : List (Breakdown α)) :
    List (List String) :=
  header :: (inventory.zip breakdowns).flatMap fun (r, b) => rows r b

/-- The text of the table. -/
def text (inventory : List (Resource α)) (breakdowns : List (Breakdown α)) : String :=
  Csv.text (table inventory breakdowns)

end Chargeback.Export
