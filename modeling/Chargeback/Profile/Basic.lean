import Chargeback.Instant
import Chargeback.Profile.Component
import Chargeback.Rule.Tree

/-!
# Cost profiles

A profile says which resources it applies to and what they cost. It has one of two cost models:
rates that every resource pays for itself, or items that its resources share. Only published
profiles are used for pricing.
-/

namespace Chargeback

/-- Where a profile stands in its review. -/
inductive Status where
  | draft
  | inReview
  | published
deriving DecidableEq, Repr

/-- How a profile charges. -/
inductive CostModel where
  /-- By rates. -/
  | simple
  /-- By shared items. -/
  | advanced
deriving DecidableEq, Repr

/-- A rule tree with prices. -/
structure Profile (α : Type) where
  /-- The identifier; the store gives one to a new profile. -/
  id : String
  name : String
  description : String
  status : Status
  /-- Profiles with lower numbers are tried first. -/
  priority : Nat
  model : CostModel
  rules : RuleTree
  /-- What the simple model charges. -/
  rates : List (Rate α)
  /-- What the advanced model charges. -/
  shared : SharedItems α
  created : Option Instant
  modified : Option Instant

namespace Status

/-- The name of a status. -/
def name : Status → String
  | draft => "draft"
  | inReview => "in_review"
  | published => "published"

/-- The accepted names. -/
def names : List (String × Status) :=
  [("draft", draft), ("in_review", inReview), ("in-review", inReview), ("published", published)]

/-- Reads a status; other names are refused. -/
def read? (j : Json) : Option Status := j.variant?.bind fun name => names.lookup name

end Status

namespace CostModel

/-- The name of a cost model. -/
def name : CostModel → String
  | simple => "simple"
  | advanced => "advanced"

/-- The accepted names. -/
def names : List (String × CostModel) := [("simple", simple), ("advanced", advanced)]

/-- Reads a cost model; other names are refused. -/
def read? (j : Json) : Option CostModel := j.variant?.bind fun name => names.lookup name

end CostModel

namespace Profile

variable {α : Type}

/-- Whether a profile is used for pricing. -/
def isPublished (p : Profile α) : Bool := p.status = .published

/-- The number of components of the cost model. -/
def componentCount (p : Profile α) : Nat :=
  match p.model with
  | .simple => p.rates.length
  | .advanced => p.shared.size

/-! ## Documents -/

/-- The priority of a profile that does not say. -/
def defaultPriority : Nat := 999

/-- The document of a profile. Dates are left out when there are none. -/
def toJson (p : Profile Float) : Json :=
  .obj ([("id", .str p.id), ("name", .str p.name), ("description", .str p.description),
      ("status", .str p.status.name), ("priority", .ofNat p.priority),
      ("costModel", .str p.model.name), ("rules", p.rules.toJson),
      ("costComponents", .ofList Rate.toJson p.rates),
      ("advancedCostComponents", p.shared.toJson)] ++
    Json.optionalField "createdDate" (fun t => .str t.text) p.created ++
    Json.optionalField "modifiedDate" (fun t => .str t.text) p.modified)

/-- Reads an instant. -/
def readInstant? (j : Json) : Option Instant := j.str?.bind Instant.parse?

/-- Reads a profile. Only the name must be given. -/
def read? (j : Json) : Option (Profile Float) := do
  guard (j.isRecord 11)
  let id ← j.optional? 0 ["id"] "" Json.str?
  let name ← j.required? 1 ["name"] Json.str?
  let description ← j.optional? 2 ["description"] "" Json.str?
  let status ← j.optional? 3 ["status"] .draft Status.read?
  let priority ← j.optional? 4 ["priority"] defaultPriority (Json.natBelow? UInt32.size)
  let model ← j.optional? 5 ["costModel"] .simple CostModel.read?
  let rules ← j.optional? 6 ["rules"] .empty RuleTree.read?
  let rates ← j.optional? 7 ["costComponents"] [] (Json.list? Rate.read?)
  let shared ← j.optional? 8 ["advancedCostComponents"] .empty SharedItems.read?
  let created ← j.optional? 9 ["createdDate"] none (Json.nullable? readInstant?)
  let modified ← j.optional? 10 ["modifiedDate"] none (Json.nullable? readInstant?)
  return { id, name, description, status, priority, model, rules, rates, shared, created, modified }

end Profile

end Chargeback
