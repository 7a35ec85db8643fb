import Chargeback.Report.Portfolio

/-!
# The report on one resource

How a resource was priced: which published profiles were tried, what became of each, and every
charge with the calculation behind it.
-/

namespace Chargeback.Report

/-- What became of a candidate. -/
inductive Outcome where
  /-- Its rules do not match. -/
  | noMatch
  /-- It prices the resource. -/
  | selected
  /-- Another candidate was selected first. -/
  | notEvaluated
deriving DecidableEq, Repr

/-- The wording of an outcome. -/
def Outcome.name : Outcome → String
  | noMatch => "no match"
  | selected => "selected"
  | notEvaluated => "not evaluated"

/-- A candidate and what became of it. -/
structure Candidate where
  priority : Nat
  profile : String
  outcome : Outcome
deriving DecidableEq, Repr

/-- How a resource was priced. -/
structure Explanation where
  resource : Resource Float
  candidates : List Candidate
  breakdown : Breakdown Float

namespace Candidate

/-- A profile as a candidate. -/
def of {α : Type} (p : Profile α) (outcome : Outcome) : Candidate := ⟨p.priority, p.name, outcome⟩

/-- What becomes of some candidates: they are tried in order until the first one matches. -/
def trial {α : Type} [Scalar α] (r : Resource α) : List (Profile α) → List Candidate
  | [] => []
  | p :: rest =>
    if p.applies r then of p .selected :: rest.map (of · .notEvaluated)
    else of p .noMatch :: trial r rest

/-- The cells of a candidate. -/
def row (c : Candidate) : List String := [Number.natText c.priority, c.profile, c.outcome.name]

/-- The document of a candidate. -/
def toJson (c : Candidate) : Json :=
  .obj [("priority", .ofNat c.priority), ("profile", .str c.profile),
    ("outcome", .str c.outcome.name)]

end Candidate

namespace Explanation

/-- How a resource of an inventory is priced. -/
def of (o : EngineOptions Float) (profiles : List (Profile Float))
    (inventory : List (Resource Float)) (r : Resource Float) : Explanation where
  resource := r
  candidates := Candidate.trial r (Profile.candidates profiles)
  breakdown := o.price profiles inventory r

/-- The lines about the resource. -/
def overview (r : Resource Float) : List String :=
  heading "Cost Explanation" 60 ++
    ["Resource:               " ++ r.name ++ " (" ++ r.id ++ ")",
     "Owner:                  " ++ r.owner,
     "Capacity:               " ++ Scalar.display r.cpu ++ " CPU, " ++ Scalar.display r.memory ++
        " GB memory, " ++ Scalar.display r.storage ++ " GB storage",
     "Tags:                   " ++ tagsText r,
     ""]

/-- The cells of an item. -/
def itemRow (currency : String) (i : LineItem Float) : List String :=
  [if i.degraded then i.name ++ " (fallback)" else i.name, i.kind, i.category,
   Money.inCurrency currency i.value, i.calculation]

/-- The lines about capital and operating expense, if the breakdown has either. -/
def expenses (currency : String) (b : Breakdown Float) : List String :=
  if !(b.capex == Scalar.zero) || !(b.opex == Scalar.zero) then
    ["  CapEx:                " ++ Money.inCurrency currency b.capex ++ " (" ++
        partOf b.capex b.monthly ++ ")",
     "  OpEx:                 " ++ Money.inCurrency currency b.opex ++ " (" ++
        partOf b.opex b.monthly ++ ")"]
  else []

/-- The remarks below the total. -/
def remarks (currency : String) (b : Breakdown Float) : List String :=
  (if b.oneTime == Scalar.zero then []
    else [info ("One-time charges of " ++ Money.inCurrency currency b.oneTime ++
      " are amortized into the monthly total")]) ++
  if 0 < b.degradedItems then
    [warning (Number.natText b.degradedItems ++
      " line item(s) used a fallback because the component data was unusable")]
  else []

/-- The lines about the charges of a profile. -/
def charges (currency profile : String) (b : Breakdown Float) : List String :=
  ["Matched Profile: " ++ profile ++ " (" ++ (b.model.map CostModel.name).getD "" ++ " model)",
   ""] ++
    table ["Component", "Type", "Category", "Cost", "Calculation"]
      (b.items.map (itemRow currency)) ++
    ["", "Monthly Total:  " ++ Money.inCurrency currency b.monthly] ++
    expenses currency b ++ remarks currency b

/-- The report for people. -/
def lines (currency : String) (e : Explanation) : List String :=
  overview e.resource ++ subheading "Published Profiles" ++
    table ["Priority", "Profile", "Outcome"] (e.candidates.map Candidate.row) ++ [""] ++
    match e.breakdown.profile? with
    | some profile => charges currency profile e.breakdown
    | none => [warning "No published cost profile matched this resource"]

/-- The report as a document. -/
def toJson (e : Explanation) : Json :=
  .obj [("resource", e.resource.toJson), ("candidates", .ofList Candidate.toJson e.candidates),
    ("breakdown", e.breakdown.toJson)]

end Explanation

end Chargeback.Report
