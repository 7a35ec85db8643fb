import Chargeback.Portfolio.Export
import Chargeback.Proofs.CsvText
import Chargeback.Proofs.WellFormed

/-!
# What the exported table says

A reader who only knows the names of the columns finds every breakdown in the exported table. Behind
the names there is a block of rows for each resource, in order. All rows of a block are about this
resource and its profile, their components are the items of the breakdown, and the totals stand in
the first row alone, so no sum over a column counts them twice. The rows are described by the names
of the columns, not by how they are put together, and no text in them can blur their limits.
-/

namespace Chargeback.Export

/-! ## Rows by column -/

/-- The cells of a row in some columns. -/
def cellsIn (columns row : List String) : List String :=
  columns.map fun column => ((header.zip row).lookup column).getD ""

/-- The columns about the resource. -/
def resourceColumns : List String := ["VM Name", "Owner", "CPU", "Memory", "Storage"]

/-- The column of the profile that prices the resource. -/
def profileColumns : List String := ["Matched Profile"]

/-- The columns about one item of the breakdown. -/
def itemColumns : List String := ["Component", "Type", "Category", "Cost"]

/-- The columns about the whole breakdown. -/
def totalColumns : List String := ["Total Monthly", "Total One-Time", "CapEx", "OpEx"]

variable {α : Type} [Scalar α]

/-- A row with one cell for each column, about a resource and its profile. -/
structure IsRowOf (r : Resource α) (profile : String) (row : List String) : Prop where
  length : row.length = header.length
  resource : cellsIn resourceColumns row =
    [r.name, r.owner, Scalar.display r.cpu, Scalar.display r.memory, Scalar.display r.storage]
  profile : cellsIn profileColumns row = [profile]

/-- The rows about a breakdown: one for each item; a single one without a component if the breakdown
has a profile and no items, and one that says so if it has no profile. -/
structure IsBlock (r : Resource α) (b : Breakdown α) (rows : List (List String)) : Prop where
  row : ∀ row ∈ rows, IsRowOf r (b.profile?.getD "None") row
  unmatched : b.profile? = none →
    rows.map (cellsIn itemColumns) = [["No cost profile matched", "", "", "0.00"]] ∧
      rows.map (cellsIn totalColumns) = [["0.00", "0.00", "0.00", "0.00"]]
  bare : b.profile?.isSome → b.items = [] →
    rows.map (cellsIn itemColumns) = [["", "", "", "0.00"]]
  itemized : b.profile?.isSome → b.items ≠ [] →
    rows.map (cellsIn itemColumns) =
      b.items.map fun i => [i.name, i.kind, i.category, Scalar.money i.value]
  totals : b.profile?.isSome → ∃ first rest, rows = first :: rest ∧
    cellsIn totalColumns first =
      [Scalar.money b.monthly, Scalar.money b.oneTime, Scalar.money b.capex, Scalar.money b.opex] ∧
    ∀ row ∈ rest, cellsIn totalColumns row = ["", "", "", ""]

/-! ## Blocks from their parts -/

/-- A row from its parts. -/
def rowOf (r : Resource α) (profile : String) (totals item : List String) : List String :=
  resourceCells r ++ profile :: (item ++ totals)

/-- The parts of a row stand in the columns that are named for them. -/
theorem cellsIn_rowOf (r : Resource α) (profile : String) {totals item : List String}
    (htotals : totals.length = totalColumns.length) (hitem : item.length = itemColumns.length) :
    IsRowOf r profile (rowOf r profile totals item) ∧
      cellsIn itemColumns (rowOf r profile totals item) = item ∧
      cellsIn totalColumns (rowOf r profile totals item) = totals := by
  match totals, item, htotals, hitem with
  | [monthly, oneTime, capex, opex], [name, kind, category, cost], _, _ =>
    exact ⟨⟨rfl, rfl, rfl⟩, rfl, rfl⟩

/-- Nothing, in the columns of the totals. -/
def noTotals : List String := ["", "", "", ""]

theorem length_noTotals : noTotals.length = totalColumns.length := rfl

/-- Rows that show some items, with the totals in the first row. -/
def blockOf (r : Resource α) (profile : String) (totals first : List String)
    (rest : List (List String)) : List (List String) :=
  rowOf r profile totals first :: rest.map (rowOf r profile noTotals)

section BlockOf

variable (r : Resource α) (profile : String) {totals first : List String}
  {rest : List (List String)} (htotals : totals.length = totalColumns.length)
  (hfirst : first.length = itemColumns.length)
  (hrest : ∀ item ∈ rest, item.length = itemColumns.length)

include htotals hfirst hrest

theorem isRowOf_of_mem_blockOf {row : List String}
    (hrow : row ∈ blockOf r profile totals first rest) : IsRowOf r profile row := by
  rcases List.mem_cons.mp hrow with rfl | hrow
  · exact (cellsIn_rowOf r profile htotals hfirst).1
  · obtain ⟨item, hitem, rfl⟩ := List.mem_map.mp hrow
    exact (cellsIn_rowOf r profile length_noTotals (hrest item hitem)).1

theorem map_itemColumns_blockOf :
    (blockOf r profile totals first rest).map (cellsIn itemColumns) = first :: rest := by
  have hothers : (rest.map (rowOf r profile noTotals)).map (cellsIn itemColumns) = rest := by
    rw [List.map_map]
    refine (List.map_congr_left fun item hitem => ?_).trans (List.map_id rest)
    exact (cellsIn_rowOf r profile length_noTotals (hrest item hitem)).2.1
  rw [blockOf, List.map_cons, hothers, (cellsIn_rowOf r profile htotals hfirst).2.1]

theorem totals_blockOf :
    ∃ row rows, blockOf r profile totals first rest = row :: rows ∧
      cellsIn totalColumns row = totals ∧ ∀ row ∈ rows, cellsIn totalColumns row = noTotals := by
  refine ⟨_, _, rfl, (cellsIn_rowOf r profile htotals hfirst).2.2, ?_⟩
  intro row hrow
  obtain ⟨item, hitem, rfl⟩ := List.mem_map.mp hrow
  exact (cellsIn_rowOf r profile length_noTotals (hrest item hitem)).2.2

end BlockOf

/-! ## The blocks of the table -/

variable {r : Resource α} {b : Breakdown α}

/-- Zero amounts, in the columns of the totals. -/
def zeroTotals : List String := ["0.00", "0.00", "0.00", "0.00"]

theorem isBlock_of_unmatched (hprofile : b.profile? = none) : IsBlock r b (rows r b) := by
  have hrows : rows r b =
      blockOf r "None" zeroTotals ["No cost profile matched", "", "", "0.00"] [] := by
    rw [rows, hprofile]
    rfl
  have htotals : zeroTotals.length = totalColumns.length := rfl
  have hfirst : ["No cost profile matched", "", "", "0.00"].length = itemColumns.length := rfl
  have hrest : ∀ item ∈ ([] : List (List String)), item.length = itemColumns.length := by
    intro item hitem
    cases hitem
  have hmatched : ¬ b.profile?.isSome := by
    rw [hprofile]
    exact Bool.false_ne_true
  rw [hrows]
  constructor
  case row =>
    intro row hrow
    rw [hprofile]
    exact isRowOf_of_mem_blockOf r "None" htotals hfirst hrest hrow
  case unmatched =>
    intro _
    exact ⟨map_itemColumns_blockOf r "None" htotals hfirst hrest, rfl⟩
  all_goals exact fun h => absurd h hmatched

/-- What the rows of a breakdown with a profile show of its items. -/
theorem isBlock_of_shown {profile : String} (hprofile : b.profile? = some profile)
    {first : List String} {rest : List (List String)} (hfirst : first.length = itemColumns.length)
    (hrest : ∀ item ∈ rest, item.length = itemColumns.length)
    (hbare : b.items = [] → first :: rest = [["", "", "", "0.00"]])
    (hitemized : b.items ≠ [] → first :: rest = b.items.map itemCells) :
    IsBlock r b (blockOf r profile (totalCells b) first rest) := by
  have htotals : (totalCells b).length = totalColumns.length := rfl
  have hitems := map_itemColumns_blockOf r profile htotals hfirst hrest
  constructor
  case row =>
    intro row hrow
    rw [hprofile]
    exact isRowOf_of_mem_blockOf r profile htotals hfirst hrest hrow
  case unmatched =>
    intro hnone
    rw [hprofile] at hnone
    cases hnone
  case bare =>
    intro _ hempty
    exact hitems.trans (hbare hempty)
  case itemized =>
    intro _ hsome
    exact hitems.trans (hitemized hsome)
  case totals =>
    intro _
    exact totals_blockOf r profile htotals hfirst hrest

theorem isBlock_of_matched {profile : String} (hprofile : b.profile? = some profile) :
    IsBlock r b (rows r b) := by
  cases hitems : b.items with
  | nil =>
    have hrows : rows r b = blockOf r profile (totalCells b) ["", "", "", "0.00"] [] := by
      rw [rows, hprofile]
      show itemRows r b profile = _
      rw [itemRows, hitems]
      rfl
    rw [hrows]
    refine isBlock_of_shown hprofile rfl ?_ (fun _ => rfl) (fun hsome => absurd hitems hsome)
    intro item hitem
    cases hitem
  | cons item items =>
    have hrows : rows r b =
        blockOf r profile (totalCells b) (itemCells item) (items.map itemCells) := by
      rw [rows, hprofile]
      show itemRows r b profile = _
      rw [itemRows, hitems, blockOf, List.map_map]
      rfl
    have hsome : b.items ≠ [] := by
      rw [hitems]
      exact List.cons_ne_nil item items
    rw [hrows]
    refine isBlock_of_shown hprofile rfl ?_ (fun hempty => absurd hempty hsome) (fun _ => ?_)
    · intro cells hcells
      obtain ⟨i, -, rfl⟩ := List.mem_map.mp hcells
      rfl
    · rw [hitems, List.map_cons]

/-- The rows of a resource are a block about its breakdown. -/
theorem isBlock_rows (r : Resource α) (b : Breakdown α) : IsBlock r b (rows r b) := by
  cases hprofile : b.profile? with
  | none => exact isBlock_of_unmatched hprofile
  | some profile => exact isBlock_of_matched hprofile

/-! ## Reading the table -/

theorem ne_nil_of_mem_table {inventory : List (Resource α)} {breakdowns : List (Breakdown α)}
    {row : List String} (hrow : row ∈ table inventory breakdowns) : row ≠ [] := by
  rintro rfl
  rcases List.mem_cons.mp hrow with hrow | hrow
  · cases hrow
  · obtain ⟨⟨r, b⟩, -, hrow⟩ := List.mem_flatMap.mp hrow
    cases ((isBlock_rows r b).row [] hrow).length

/-- The name of the first column begins with a letter, so the text has no byte order mark. -/
theorem stripMark_text (inventory : List (Resource α)) (breakdowns : List (Breakdown α)) :
    Csv.stripMark (text inventory breakdowns).toList = (text inventory breakdowns).toList := by
  obtain ⟨rest, hheader⟩ : ∃ rest, Csv.recordText header = 'V' :: rest := ⟨_, rfl⟩
  rw [text, Csv.text, String.toList_ofList, table, List.flatMap_cons, hheader]
  rfl

/-- Reading the exported text gives the names of the columns and then, for each resource with a
breakdown, in order, the block of rows about it. No text in a resource, a profile or an item adds a
row or a cell, or takes one away. -/
theorem read_text_eq_blocks (inventory : List (Resource α)) (breakdowns : List (Breakdown α)) :
    ∃ blocks : List (List (List String)),
      Csv.read (text inventory breakdowns) = header :: blocks.flatten ∧
        List.Forall₂ (fun rows pair => IsBlock pair.1 pair.2 rows) blocks
          (inventory.zip breakdowns) := by
  refine ⟨(inventory.zip breakdowns).map fun pair => rows pair.1 pair.2, ?_, ?_⟩
  · rw [text, Csv.read_text (fun row => ne_nil_of_mem_table) (stripMark_text inventory breakdowns)]
    exact congrArg (header :: ·) List.flatMap_def
  · exact forall₂_map (fun pair => isBlock_rows pair.1 pair.2) (inventory.zip breakdowns)

end Chargeback.Export
