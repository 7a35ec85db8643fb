import Chargeback.Lifecycle
import Chargeback.Report.Allocations

/-!
# The report on the portfolio

What the whole inventory costs, by profile and by component, and its most expensive resources.
-/

namespace Chargeback.Report

/-- What the report on the portfolio is about. -/
structure Portfolio where
  totals : Totals Float
  /-- The profiles of the store by status. -/
  statuses : StatusCounts
  /-- The most expensive resources, in order. -/
  ranking : List (Breakdown Float)

/-- A part of a total as a percentage; nothing is a part of a total that is not positive. -/
def partOf (part total : Float) : String :=
  Money.percent 1 (if Scalar.less Scalar.zero total then part / total else Scalar.zero)

namespace Portfolio

/-- The lines about the portfolio as a whole. -/
def overview (p : Portfolio) : List String :=
  let t := p.totals
  heading "Portfolio Totals" 60 ++
    ["Resources:              " ++ Number.natText t.resources ++ " (" ++
        Number.natText t.costed ++ " costed, " ++ Number.natText t.uncosted ++ " uncosted, " ++
        Money.percent 1 (t.coverage / Scalar.ofNat 100) ++ " coverage)",
     "Profiles:               " ++ Number.natText p.statuses.published ++ " published, " ++
        Number.natText p.statuses.inReview ++ " in review, " ++
        Number.natText p.statuses.draft ++ " draft",
     "Inventory:              " ++ Scalar.display t.inventory.cpu ++ " CPU, " ++
        Scalar.display t.inventory.memory ++ " GB memory, " ++ terabytes t.inventory.storage ++
        " storage",
     ""]

/-- The lines about the costs as a whole. -/
def costs (currency : String) (t : Totals Float) : List String :=
  subheading "Monthly Costs" ++
    ["Total:                  " ++ Money.inCurrency currency t.monthly,
     "  CapEx:                " ++ Money.inCurrency currency t.capex,
     "  OpEx:                 " ++ Money.inCurrency currency t.opex,
     "One-time charges:       " ++ Money.inCurrency currency t.oneTime ++
        " (raw, amortized into the total)",
     ""]

/-- A part of the report with a table, left out if the table has no rows. -/
def part (title : String) (header : List String) (rows : List (List String)) : List String :=
  if rows.isEmpty then [] else subheading title ++ table header rows

/-- The cells of a profile. -/
def profileRow (currency : String) (total : Float) (entry : String × ProfileTotals Float) :
    List String :=
  [entry.1, Number.natText entry.2.resources, Money.inCurrency currency entry.2.monthly,
   partOf entry.2.monthly total]

/-- The cells of a component. -/
def componentRow (currency : String) (entry : String × Float) : List String :=
  [entry.1, Money.inCurrency currency entry.2]

/-- The cells of a ranked resource. -/
def rankingRow (currency : String) (entry : Breakdown Float × Nat) : List String :=
  [Number.natText entry.2, entry.1.resourceName, profileName entry.1,
   Money.inCurrency currency entry.1.monthly]

/-- Lines with an empty one behind them, if there are any. -/
def spaced (lines : List String) : List String := if lines.isEmpty then [] else lines ++ [""]

/-- The report for people. -/
def lines (currency : String) (p : Portfolio) : List String :=
  let t := p.totals
  p.overview ++ costs currency t ++
    spaced (part "Cost by Profile" ["Profile", "Resources", "Monthly", "Share"]
      (t.byProfile.entries.map (profileRow currency t.monthly))) ++
    spaced (part "Cost by Component" ["Component", "Monthly"]
      (t.byComponent.entries.map (componentRow currency))) ++
    part ("Top " ++ Number.natText p.ranking.length ++ " Resources")
      ["Rank", "VM Name", "Profile", "Monthly"]
      ((p.ranking.zipIdx 1).map (rankingRow currency)) ++
    if 0 < t.uncosted then ["", uncostedWarning t.uncosted] else []

/-- The document of a ranked resource. -/
def rankingJson (b : Breakdown Float) : Json :=
  .obj [("resource_id", .str b.resourceId), ("resource_name", .str b.resourceName),
    ("profile", .ofOption .str b.profile?), ("monthly_total", .ofFloat b.monthly)]

/-- The report as a document. -/
def toJson (p : Portfolio) : Json :=
  .obj [("totals", p.totals.toJson), ("profiles", p.statuses.toJson),
    ("top", .ofList rankingJson p.ranking)]

end Portfolio

end Chargeback.Report
