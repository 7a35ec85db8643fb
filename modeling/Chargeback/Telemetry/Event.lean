import Chargeback.Portfolio.Totals
import Chargeback.Profile.Validation

/-!
# Events

What a run has to say about itself, for those who watch it. An event keeps the values that it is
about; its level, its topic, its wording and its document follow from them.
-/

namespace Chargeback

/-- How much an event matters. -/
inductive Level where
  | debug
  | info
  | warning
deriving DecidableEq, Repr

/-- The name of a level. -/
def Level.name : Level → String
  | debug => "DEBUG"
  | info => "INFO"
  | warning => "WARN"

/-- Something that happened in a run. Some events say which file they come from. -/
inductive Event where
  /-- A resource found its profile. -/
  | matched (resourceId profile : String) (priority : Nat)
  /-- No candidate applies to a resource. -/
  | unmatched (resourceId : String) (candidates : Nat)
  /-- A rate has an unknown basis. -/
  | degradedRate (resourceId profile component : String)
  /-- Some data of a shared item could not be used. -/
  | degradedItem (resourceId profile component calculation : String)
  /-- A resource is priced. -/
  | priced (file : String) (profile : String) (breakdown : Breakdown Float)
  /-- A resource is not priced. -/
  | unpriced (file : String) (breakdown : Breakdown Float)
  /-- The totals are known. -/
  | totalled (file : String) (totals : Totals Float)
  /-- There are resources, and none costs anything. -/
  | nothingCosted (file : String) (resources : Nat)
  /-- The tags of a resource are no JSON object. -/
  | tagsIgnored (resourceId : String)
  /-- A profile has another status. -/
  | moved (file profile : String) (before after : Status)
  /-- A profile is stored for the first time. -/
  | created (file : String) (profile : Profile Float)
  /-- A stored profile has another content. -/
  | updated (file : String) (profile : Profile Float)
  /-- A profile is not valid. -/
  | rejected (file profile : String) (problems : List Problem)

namespace Event

/-- How much an event matters. -/
def level : Event → Level
  | matched .. | unmatched .. | priced .. | unpriced .. => .debug
  | totalled .. | moved .. | created .. | updated .. => .info
  | degradedRate .. | degradedItem .. | nothingCosted .. | tagsIgnored .. | rejected .. => .warning

/-- Which part of the program an event belongs to. -/
def topic : Event → String
  | matched .. | unmatched .. => "costing_lib::matcher"
  | degradedRate .. => "costing_lib::allocation::simple"
  | degradedItem .. => "costing_lib::allocation::advanced"
  | tagsIgnored .. => "vmc::store"
  | _ => "costing_lib::observability"

/-- Whether an event says that some data could not be used in pricing. -/
def isDegradation : Event → Bool
  | degradedRate .. | degradedItem .. => true
  | _ => false

/-- The wording of an event. -/
def message : Event → String
  | matched .. => "Resource matched cost profile"
  | unmatched .. => "No published profile matched resource"
  | degradedRate .. => "Unrecognized component type, charged as flat monthly value"
  | degradedItem .. => "Component data unusable, default allocation applied"
  | priced .. => "Resource priced"
  | unpriced .. => "No cost profile matched"
  | totalled .. => "Portfolio totals computed"
  | nothingCosted .. => "No resource matched a published cost profile"
  | tagsIgnored .. => "Ignoring tags that are not a JSON object"
  | moved .. => "Cost profile status changed"
  | created .. | updated .. => "Cost profile saved"
  | rejected .. => "Cost profile failed validation"

/-- The fields of an event about a stored profile. -/
def savedFields (file : String) (p : Profile Float) (action : String) : List (String × Json) :=
  [("event", .str "profile_saved"), ("source", .str file), ("profile", .str p.name),
    ("profile_id", .str p.id), ("status", .str p.status.name), ("action", .str action)]

/-- The values that an event is about, by name. -/
def fields : Event → List (String × Json)
  | matched resourceId profile priority =>
    [("resource_id", .str resourceId), ("profile", .str profile), ("priority", .ofNat priority)]
  | unmatched resourceId candidates =>
    [("resource_id", .str resourceId), ("candidates", .ofNat candidates)]
  | degradedRate resourceId profile component =>
    [("event", .str "line_item_degraded"), ("resource_id", .str resourceId),
      ("profile", .str profile), ("component", .str component)]
  | degradedItem resourceId profile component calculation =>
    [("event", .str "line_item_degraded"), ("resource_id", .str resourceId),
      ("profile", .str profile), ("component", .str component), ("calculation", .str calculation)]
  | priced file profile b =>
    [("event", .str "resource_costed"), ("source", .str file), ("resource_id", .str b.resourceId),
      ("resource_name", .str b.resourceName), ("profile", .str profile),
      ("monthly_total", .ofFloat b.monthly), ("line_items", .ofNat b.items.length)]
  | unpriced file b =>
    [("event", .str "resource_uncosted"), ("source", .str file),
      ("resource_id", .str b.resourceId), ("resource_name", .str b.resourceName)]
  | totalled file t =>
    [("event", .str "portfolio_aggregated"), ("source", .str file),
      ("resources", .ofNat t.resources), ("costed", .ofNat t.costed),
      ("uncosted", .ofNat t.uncosted), ("monthly_total", .ofFloat t.monthly),
      ("capex_total", .ofFloat t.capex), ("opex_total", .ofFloat t.opex)]
  | nothingCosted file resources =>
    [("event", .str "portfolio_uncosted"), ("source", .str file), ("resources", .ofNat resources)]
  | tagsIgnored resourceId =>
    [("event", .str "inventory_tags_unreadable"), ("resource_id", .str resourceId)]
  | moved file profile before after =>
    [("event", .str "profile_transition"), ("source", .str file), ("profile", .str profile),
      ("from", .str before.name), ("to", .str after.name)]
  | created file p => savedFields file p "created"
  | updated file p => savedFields file p "updated"
  | rejected file profile problems =>
    [("event", .str "profile_rejected"), ("source", .str file), ("profile", .str profile),
      ("problems", .str (String.intercalate "; " (problems.map Problem.message)))]

/-- The document of an event. -/
def toJson (e : Event) : Json :=
  .obj [("level", .str e.level.name), ("fields", .obj (("message", .str e.message) :: e.fields)),
    ("target", .str e.topic)]

end Event

end Chargeback
