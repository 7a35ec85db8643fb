import Chargeback.Portfolio.Export
import Chargeback.Report.Explanation
import Chargeback.Run.Basic
import Chargeback.Telemetry.Trace

/-!
# Runs that price

The commands that price an inventory and report on it. None of them changes the store.
-/

namespace Chargeback.Workspace

/-- What comes of pricing an inventory, before anything is printed. -/
def priced (w : Workspace) (store : Store Float) (inventory : List (Resource Float))
    (breakdowns : List (Breakdown Float)) : RunResult where
  output := ""
  events := Trace.pricingAll w.resources w.engine store.profiles inventory breakdowns
  counters := .of breakdowns
  writes := []
  failure := none

/-- Shows what the selected resources cost. -/
def showAllocations (w : Workspace) (search : Option String) (uncostedOnly : Bool) : RunResult :=
  w.withInventory fun inventory => w.withStore fun store =>
    let breakdowns := w.engine.priceAll store.profiles inventory
    let selected := Report.Allocations.select search uncostedOnly (inventory.zip breakdowns)
    { w.priced store inventory breakdowns with
      output := w.render (Report.Allocations.lines w.currency uncostedOnly selected)
        (Report.Allocations.toJson selected) }

/-- Explains how a resource was priced. -/
def explain (w : Workspace) (key : String) : RunResult :=
  w.withInventory fun inventory => w.withStore fun store =>
    match Inventory.find inventory key with
    | .error e => .failed [] (.inventory e)
    | .ok r =>
      let e := Report.Explanation.of w.engine store.profiles inventory r
      { RunResult.printed (w.render (e.lines w.currency) e.toJson) with
        events := Trace.pricing w.engine.allocation
          ((Profile.candidates store.profiles).map (w.engine.offer inventory)) r }

/-- Shows the totals and the most expensive resources. -/
def showTotals (w : Workspace) (top : Nat) : RunResult :=
  w.withInventory fun inventory => w.withStore fun store =>
    let (breakdowns, totals) := w.engine.portfolio store.profiles inventory
    let report : Report.Portfolio :=
      { totals
        statuses := StatusCounts.of store.profiles
        ranking := topByCost top breakdowns }
    let result := w.priced store inventory breakdowns
    { result with
      output := w.render (report.lines w.currency) report.toJson
      events := result.events ++ Trace.totals w.resources totals }

/-- Writes all charges as a table, to a file or to the output. -/
def writeTable (w : Workspace) (file : Option String) : RunResult :=
  w.withInventory fun inventory => w.withStore fun store =>
    let breakdowns := w.engine.priceAll store.profiles inventory
    let table := Export.text inventory breakdowns
    let result := w.priced store inventory breakdowns
    match file with
    | none => { result with output := table }
    | some file =>
      if w.surroundings.canWrite file then
        { result with
          output := Report.text [Report.success ("Exported " ++
            Number.natText breakdowns.length ++ " resources to " ++ file)]
          writes := [(file, table)] }
      else { result with failure := some (.tableUnwritable file) }

/-- Shows the selected resources. -/
def showResources (w : Workspace) (search : Option String) : RunResult :=
  w.withInventory fun inventory =>
    let selected := Report.Resources.select search inventory
    .printed (w.render (Report.Resources.lines selected) (Report.Resources.toJson selected))

end Chargeback.Workspace
