import Chargeback.Json.Record
import Chargeback.Text.LowerCase
import Chargeback.Text.Search

/-!
# Resources

A resource is a virtual machine of the inventory: who it is, what it takes, and its tags. This
module holds the type, the attributes by which rules address it, and its document.
-/

namespace Chargeback

/-- A virtual machine. -/
structure Resource (α : Type) where
  /-- The identifier, unique within an inventory. -/
  id : String
  /-- The name that people use. -/
  name : String
  /-- The kind of machine, if the inventory gives one. -/
  kind : Option String
  /-- Who answers for the machine. -/
  owner : String
  /-- Where it runs. -/
  region : String
  /-- How many processors it has. -/
  cpu : α
  /-- Its memory in gigabytes. -/
  memory : α
  /-- Its storage in gigabytes. -/
  storage : α
  /-- Its tags. -/
  tags : TextMap String
deriving DecidableEq

/-- What rules can ask of every resource. -/
inductive Attribute where
  | id
  | name
  | kind
  | owner
  | region
  | cpu
  | memory
  | storage
deriving DecidableEq, Repr

namespace Attribute

/-- The name of the inventory column that holds an attribute. -/
def column : Attribute → String
  | id => "ResourceId"
  | name => "ResourceName"
  | kind => "ResourceType"
  | owner => "OwnerID"
  | region => "RegionName"
  | cpu => "CPU"
  | memory => "MemoryGB"
  | storage => "StorageGB"

/-- The accepted spellings of the attributes, in lower case and without `_` and `-`. -/
def spellings : List (String × Attribute) :=
  [("resourceid", id), ("id", id), ("resourcename", name), ("name", name),
   ("resourcetype", kind), ("type", kind), ("ownerid", owner), ("owner", owner),
   ("regionname", region), ("region", region), ("cpu", cpu), ("cpucount", cpu), ("vcpu", cpu),
   ("vcpucount", cpu), ("memorygb", memory), ("memory", memory), ("storagegb", storage),
   ("storage", storage)]

/-- The name of an attribute without what its spellings may vary in: case, `_` and `-`. -/
def fold (raw : List Char) : List Char :=
  Text.lowerEach (raw.filter fun c => c ≠ '_' && c ≠ '-')

/-- The attribute that a name spells. -/
def parse? (raw : String) : Option Attribute := spellings.lookup (String.ofList (fold raw.toList))

end Attribute

/-- The value of a field of a resource. -/
inductive FieldValue (α : Type) where
  | number (value : α)
  | text (value : String)
  /-- The resource has no such field. -/
  | absent
deriving DecidableEq

namespace Resource

variable {α : Type}

/-- The value of an attribute. -/
def get (r : Resource α) : Attribute → FieldValue α
  | .id => .text r.id
  | .name => .text r.name
  | .kind => match r.kind with
    | some kind => .text kind
    | none => .absent
  | .owner => .text r.owner
  | .region => .text r.region
  | .cpu => .number r.cpu
  | .memory => .number r.memory
  | .storage => .number r.storage

/-- The value of a tag. -/
def tag? (r : Resource α) (key : String) : Option String := r.tags.get? key

/-! ## Documents -/

/-- The document of a resource. The kind is left out when there is none. -/
def toJson (r : Resource Float) : Json :=
  .obj ([("ResourceId", .str r.id), ("ResourceName", .str r.name)] ++
    Json.optionalField "ResourceType" .str r.kind ++
    [("OwnerID", .str r.owner), ("RegionName", .str r.region), ("CPU", .ofFloat r.cpu),
     ("MemoryGB", .ofFloat r.memory), ("StorageGB", .ofFloat r.storage),
     ("Tags", .ofTextMap .str r.tags)])

/-- Reads a resource. Only the identifier and the name must be given; capacities and tags are
lenient. -/
def read? (j : Json) : Option (Resource Float) := do
  guard (j.isRecord 9)
  let id ← j.required? 0 ["ResourceId", "id"] Json.str?
  let name ← j.required? 1 ["ResourceName", "name"] Json.str?
  let kind ← j.optional? 2 ["ResourceType", "resource_type"] none (Json.nullable? Json.str?)
  let owner ← j.optional? 3 ["OwnerID", "owner"] "" Json.str?
  let region ← j.optional? 4 ["RegionName", "region"] "" Json.str?
  let cpu ← j.optional? 5 ["CPU", "cpu_count"] 0.0 (Json.lenient? Json.lenientFloat)
  let memory ← j.optional? 6 ["MemoryGB", "memory_gb"] 0.0 (Json.lenient? Json.lenientFloat)
  let storage ← j.optional? 7 ["StorageGB", "storage_gb"] 0.0 (Json.lenient? Json.lenientFloat)
  let tags ← j.optional? 8 ["Tags", "tags"] ∅ (Json.lenient? Json.tags)
  return { id, name, kind, owner, region, cpu, memory, storage, tags }

end Resource

end Chargeback
