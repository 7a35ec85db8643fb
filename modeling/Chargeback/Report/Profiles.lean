import Chargeback.Report.Table
import Chargeback.Store.Basic

/-!
# The reports on the store

The profiles of a store, all of them or those of one status, and their problems.
-/

namespace Chargeback.Report

/-- The date of the last change of a profile, up to the minute. -/
def modifiedText (p : Profile Float) : String := (p.modified.map Instant.shortText).getD "-"

namespace Profiles

/-- The profiles of a status; without a status, all of them. -/
def select (status : Option Status) (profiles : List (Profile Float)) : List (Profile Float) :=
  profiles.filter fun p => match status with
    | some status => p.status = status
    | none => true

/-- The names of the columns. -/
def header : List String :=
  ["ID", "Name", "Status", "Priority", "Model", "Conditions", "Components", "Modified"]

/-- The cells of a profile. -/
def row (p : Profile Float) : List String :=
  [p.id, p.name, p.status.name, Number.natText p.priority, p.model.name,
   Number.natText p.rules.conditionCount, Number.natText p.componentCount, modifiedText p]

/-- The line about all profiles of a store. -/
def summary (counts : StatusCounts) : String :=
  Number.natText (counts.draft + counts.inReview + counts.published) ++ " profiles: " ++
    Number.natText counts.published ++ " published, " ++ Number.natText counts.inReview ++
    " in review, " ++ Number.natText counts.draft ++ " draft"

/-- The report for people: the selected profiles, and how many there are altogether. -/
def lines (selected all : List (Profile Float)) : List String :=
  table header (selected.map row) ++ ["", summary (StatusCounts.of all)]

/-- The report as a document. -/
def toJson (selected : List (Profile Float)) : Json := .ofList Profile.toJson selected

end Profiles

namespace Validation

/-- How many of some profiles have problems. -/
def invalid (profiles : List (Profile Float)) : Nat :=
  profiles.countP fun p => !p.problems.isEmpty

/-- The rows of a profile: one per problem, or one that says that there is none. -/
def rows (p : Profile Float) : List (List String) :=
  match p.problems with
  | [] => [[p.name, p.status.name, "ok"]]
  | problems => problems.map fun problem => [p.name, p.status.name, problem.message]

/-- The report for people. -/
def lines (profiles : List (Profile Float)) : List String :=
  table ["Profile", "Status", "Result"] (profiles.flatMap rows)

/-- The document of the problems of a profile. -/
def profileJson (p : Profile Float) : Json :=
  .obj [("id", .str p.id), ("name", .str p.name), ("valid", .bool p.problems.isEmpty),
    ("problems", .ofList (fun problem => .str problem.message) p.problems)]

/-- The report as a document. -/
def toJson (profiles : List (Profile Float)) : Json := .ofList profileJson profiles

end Validation

end Chargeback.Report
