import Chargeback.Text.Columns
import Chargeback.Text.Search

/-!
# Tables

Tables with ruled frames, and the other marks that reports for people are made of. A column is as
wide as its widest line; a cell with several lines makes its row higher. A report is a list of
lines; a line that is printed ends with a line end.
-/

namespace Chargeback.Report

/-- The lines of a cell. -/
def cellLines (cell : String) : List (List Char) := Text.splitAll '\n' cell.toList

/-- The width of a cell. -/
def cellWidth (cell : String) : Nat := ((cellLines cell).map Text.columns).foldl max 0

/-- The widths of the columns of some rows. -/
def columnWidths (header : List String) (rows : List (List String)) : List Nat :=
  rows.foldl (fun widths row => List.zipWith max widths (row.map cellWidth))
    (header.map cellWidth)

/-- A horizontal rule across the columns. -/
def rule (left middle right : String) (widths : List Nat) : String :=
  left ++ String.intercalate middle
    (widths.map fun width => String.ofList (List.replicate (width + 2) '─')) ++ right

/-- The lines of a row. -/
def rowLines (widths : List Nat) (row : List String) : List String :=
  let cells := row.map cellLines
  let height := (cells.map List.length).foldl max 0
  (List.range height).map fun line =>
    let parts := List.zipWith (fun width lines =>
      String.ofList (Text.padTo width (lines.getD line []))) widths cells
    "│ " ++ String.intercalate " │ " parts ++ " │"

/-- The lines of a table. -/
def table (header : List String) (rows : List (List String)) : List String :=
  if rows.isEmpty then ["No items found"]
  else
    let widths := columnWidths header rows
    rule "╭" "┬" "╮" widths :: rowLines widths header ++
      rule "├" "┼" "┤" widths :: rows.flatMap (rowLines widths) ++
      [rule "╰" "┴" "╯" widths]

/-! ## Other lines -/

/-- A character repeated. -/
def repeated (width : Nat) (c : Char) : String := String.ofList (List.replicate width c)

/-- The heading of a report. -/
def heading (title : String) (width : Nat) : List String := [title, repeated width '=']

/-- The heading of a part of a report. -/
def subheading (title : String) : List String := [title, repeated 60 '-']

/-- A line that says that something was done. -/
def success (message : String) : String := "✓ " ++ message

/-- A line that warns. -/
def warning (message : String) : String := "⚠ " ++ message

/-- A line that explains. -/
def info (message : String) : String := "ℹ " ++ message

/-- A line that says why a run failed. -/
def failure (message : String) : String := "✗ " ++ message

/-- The text of some lines. -/
def text (lines : List String) : String := String.join (lines.map (· ++ "\n"))

end Chargeback.Report
