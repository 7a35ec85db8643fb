import Chargeback.CommandLine.Command
import Chargeback.CommandLine.Scanner
import Chargeback.Csv
import Chargeback.Instant
import Chargeback.Inventory.Basic
import Chargeback.Inventory.Row
import Chargeback.Json.Basic
import Chargeback.Json.Printer
import Chargeback.Json.Reader
import Chargeback.Json.Record
import Chargeback.Lifecycle
import Chargeback.Main
import Chargeback.Matching
import Chargeback.Money
import Chargeback.Number.Decimal
import Chargeback.Number.Double
import Chargeback.Number.Reader
import Chargeback.Number.Rounding
import Chargeback.Number.Shortest
import Chargeback.Portfolio.Export
import Chargeback.Portfolio.Pricing
import Chargeback.Portfolio.Totals
import Chargeback.Pricing.Breakdown
import Chargeback.Pricing.Charge
import Chargeback.Pricing.Pool
import Chargeback.Profile.Basic
import Chargeback.Profile.Component
import Chargeback.Profile.Validation
import Chargeback.Proofs.Addressing
import Chargeback.Proofs.AllOrNothing
import Chargeback.Proofs.Amounts
import Chargeback.Proofs.Arrival
import Chargeback.Proofs.Batch
import Chargeback.Proofs.BreakdownDocuments
import Chargeback.Proofs.Change
import Chargeback.Proofs.Comparisons
import Chargeback.Proofs.ComponentEdits
import Chargeback.Proofs.Components
import Chargeback.Proofs.Containment
import Chargeback.Proofs.CounterText
import Chargeback.Proofs.Counting
import Chargeback.Proofs.CsvText
import Chargeback.Proofs.DegradedItems
import Chargeback.Proofs.DisplayedNumbers
import Chargeback.Proofs.Documents
import Chargeback.Proofs.DoubleArithmetic
import Chargeback.Proofs.Doubles
import Chargeback.Proofs.Exact
import Chargeback.Proofs.Explanation
import Chargeback.Proofs.ExplanationText
import Chargeback.Proofs.Export
import Chargeback.Proofs.Fields
import Chargeback.Proofs.Independence
import Chargeback.Proofs.InstantText
import Chargeback.Proofs.InventoryOrder
import Chargeback.Proofs.InventoryTable
import Chargeback.Proofs.JsonParts
import Chargeback.Proofs.JsonScalars
import Chargeback.Proofs.JsonText
import Chargeback.Proofs.JsonValues
import Chargeback.Proofs.Layers
import Chargeback.Proofs.Leniency
import Chargeback.Proofs.LenientNumbers
import Chargeback.Proofs.Lifecycle
import Chargeback.Proofs.LifecycleRuns
import Chargeback.Proofs.ListEdits
import Chargeback.Proofs.LowerCase
import Chargeback.Proofs.Matching
import Chargeback.Proofs.Names
import Chargeback.Proofs.Numerals
import Chargeback.Proofs.Pools
import Chargeback.Proofs.Precedence
import Chargeback.Proofs.PrintedTotals
import Chargeback.Proofs.Publication
import Chargeback.Proofs.Ranking
import Chargeback.Proofs.Readability
import Chargeback.Proofs.Readers
import Chargeback.Proofs.Reconciliation
import Chargeback.Proofs.Records
import Chargeback.Proofs.ReportLines
import Chargeback.Proofs.ResourceDocuments
import Chargeback.Proofs.Restructuring
import Chargeback.Proofs.RoundTrip
import Chargeback.Proofs.RuleTrees
import Chargeback.Proofs.SavedFields
import Chargeback.Proofs.Saving
import Chargeback.Proofs.SettingKeys
import Chargeback.Proofs.SettingValues
import Chargeback.Proofs.ShortestDoubles
import Chargeback.Proofs.Sorting
import Chargeback.Proofs.Spellings
import Chargeback.Proofs.StoreText
import Chargeback.Proofs.TagConditions
import Chargeback.Proofs.TextMaps
import Chargeback.Proofs.Validity
import Chargeback.Proofs.Warnings
import Chargeback.Proofs.WellFormed
import Chargeback.Proofs.WholeDoubles
import Chargeback.Report.Allocations
import Chargeback.Report.Explanation
import Chargeback.Report.Portfolio
import Chargeback.Report.Profiles
import Chargeback.Report.Resources
import Chargeback.Report.Table
import Chargeback.Resource
import Chargeback.Rule.Condition
import Chargeback.Rule.Field
import Chargeback.Rule.Tree
import Chargeback.Run.Basic
import Chargeback.Run.Pricing
import Chargeback.Run.Program
import Chargeback.Run.Storing
import Chargeback.Scalar
import Chargeback.Settings.Basic
import Chargeback.Settings.Layer
import Chargeback.Settings.Path
import Chargeback.Settings.Value
import Chargeback.Sorting
import Chargeback.Store.Basic
import Chargeback.Store.Change
import Chargeback.Telemetry.Counters
import Chargeback.Telemetry.Event
import Chargeback.Telemetry.Filter
import Chargeback.Telemetry.Trace
import Chargeback.Text.CaseTable
import Chargeback.Text.ColumnTable
import Chargeback.Text.Columns
import Chargeback.Text.EmojiTable
import Chargeback.Text.Ligature
import Chargeback.Text.LowerCase
import Chargeback.Text.Search
import Chargeback.TextMap
