import Chargeback.Resource
import Chargeback.Csv

/-!
# Rows of an inventory table

How a row of a table is read as a resource. The first row names the columns; columns with other
names are passed over. Capacities are lenient: a cell that is no finite number counts as zero. The
cell of the tags holds a JSON object; anything else in it stands for no tags, which is worth a
warning unless the cell is blank.
-/

namespace Chargeback.Inventory

/-- The columns that are read. -/
def columns : List String :=
  ["ResourceId", "ResourceName", "ResourceType", "RegionName", "OwnerID", "CPU", "MemoryGB",
   "StorageGB", "Tags"]

/-- A row as the names of its columns and their cells. -/
abbrev Row := List (String × String)

namespace Row

/-- Pairs the names of the columns with the cells, if there are as many of each and no column that
is read is given twice. -/
def of? (header cells : List String) : Option Row :=
  if header.length = cells.length ∧ columns.all fun c => header.count c ≤ 1 then
    some (header.zip cells)
  else none

/-- The cell of a column; empty if there is no such column. -/
def cell (row : Row) (column : String) : String := (row.lookup column).getD ""

/-- The number in the cell of a column. -/
def number (row : Row) (column : String) : Float := (Scalar.parse? (row.cell column)).getD 0.0

/-- The tags of a row, or nothing if they cannot be read. -/
def tags? (row : Row) : Option (TextMap String) :=
  let text := row.cell "Tags"
  if Text.trim text = "" then some ∅
  else match Json.readUsable? text with
    | some (.obj fields) => some (Json.tags (.obj fields))
    | _ => none

/-- The kind that a row gives. -/
def kind? (row : Row) : Option String :=
  let text := row.cell "ResourceType"
  if text = "" then none else some text

/-- The resource of a row. Only the identifier and the name must be given. -/
def resource? (row : Row) : Option (Resource Float) := do
  let id ← row.lookup "ResourceId"
  let name ← row.lookup "ResourceName"
  return {
    id
    name
    kind := row.kind?
    owner := row.cell "OwnerID"
    region := row.cell "RegionName"
    cpu := row.number "CPU"
    memory := row.number "MemoryGB"
    storage := row.number "StorageGB"
    tags := row.tags?.getD ∅ }

end Row

end Chargeback.Inventory
