import Chargeback.Portfolio.Totals
import Chargeback.Report.Table

/-!
# The report on the inventory

The resources of an inventory and their capacity, all of them or those that a search finds.
-/

namespace Chargeback.Report

/-- Whether the second text is found in the first one in lower case. -/
def isFoundIn (needle : List Char) (s : String) : Bool :=
  Text.occursIn needle (Text.lower s.toList)

/-- The tags of a resource, one behind the other. -/
def tagsText (r : Resource Float) : String :=
  String.intercalate ", " (r.tags.entries.map fun (key, value) => key ++ "=" ++ value)

/-- An amount of storage in terabytes with one place, given in gigabytes. -/
def terabytes (gigabytes : Float) : String :=
  String.ofList (Scalar.fixed 1 (gigabytes / Scalar.ofNat 1000)) ++ " TB"

namespace Resources

/-- Whether a search finds a resource: in its name, its owner or its region. -/
def isFound (needle : List Char) (r : Resource Float) : Bool :=
  isFoundIn needle r.name || isFoundIn needle r.owner || isFoundIn needle r.region

/-- The resources that a search finds; without a search, all of them. -/
def select (search : Option String) (inventory : List (Resource Float)) :
    List (Resource Float) :=
  match search with
  | some s => inventory.filter (isFound (Text.lower s.toList))
  | none => inventory

/-- The names of the columns. -/
def header : List String :=
  ["VM Name", "Type", "Region", "Owner", "CPU", "Memory (GB)", "Storage (GB)", "Tags"]

/-- The cells of a resource. -/
def row (r : Resource Float) : List String :=
  [r.name, r.kind.getD "", r.region, r.owner, Scalar.display r.cpu, Scalar.display r.memory,
   Scalar.display r.storage, tagsText r]

/-- The report for people. -/
def lines (resources : List (Resource Float)) : List String :=
  let capacity := Capacity.of resources
  table header (resources.map row) ++ "" :: heading "Inventory Summary" 40 ++
    ["Virtual machines:       " ++ Number.natText resources.length,
     "Total CPU:              " ++ Scalar.display capacity.cpu,
     "Total memory:           " ++ Scalar.display capacity.memory ++ " GB",
     "Total storage:          " ++ terabytes capacity.storage]

/-- The report as a document. -/
def toJson (resources : List (Resource Float)) : Json :=
  .obj [("resources", .ofList Resource.toJson resources),
    ("summary", (Capacity.of resources).toJson)]

end Resources

end Chargeback.Report
