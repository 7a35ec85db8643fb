/-!
# Comma separated values

The text of a table: one record per line, cells between commas. A cell that holds a comma, a quote
or a line end stands between quotes, and its own quotes are doubled. The reader also accepts line
ends of other systems, passes over empty lines and a byte order mark, and takes a quote for a plain
character wherever it does not open a cell.
-/

namespace Chargeback.Csv

/-! ## Writing -/

/-- Whether a character makes a cell need quotes. -/
def needsQuotes (c : Char) : Bool := c = ',' || c = '"' || c = '\n' || c = '\r'

/-- A text with its quotes doubled. -/
def doubleQuotes (s : List Char) : List Char :=
  s.flatMap fun c => if c = '"' then ['"', '"'] else [c]

/-- The text of a cell. -/
def cellText (s : List Char) : List Char :=
  if s.any needsQuotes then '"' :: (doubleQuotes s ++ ['"']) else s

/-- Cells with commas between them. -/
def cellsText : List String → List Char
  | [] => []
  | [cell] => cellText cell.toList
  | cell :: rest => cellText cell.toList ++ ',' :: cellsText rest

/-- The text of a record with its line end. A single empty cell stands between quotes, since an empty
line would be passed over. -/
def recordText (cells : List String) : List Char :=
  (if cells = [""] then ['"', '"'] else cellsText cells) ++ ['\n']

/-- The text of a table. -/
def text (records : List (List String)) : String := String.ofList (records.flatMap recordText)

/-! ## Reading -/

/-- Where in a record the reader stands. -/
inductive State where
  /-- In front of a record. -/
  | startRecord
  /-- In front of a cell that is not the first one. -/
  | startCell
  /-- In a cell without quotes, or behind the closing quote of one with quotes. -/
  | plain
  /-- Between the quotes of a cell. -/
  | quoted
  /-- Behind a quote that ends a cell unless another one follows. -/
  | quoteSeen
deriving DecidableEq, Repr

/-- What has been read: the records, the cells of the record at hand and the characters of its
cell, all with the last one first. -/
structure Progress where
  state : State
  cell : List Char
  cells : List String
  records : List (List String)

namespace Progress

/-- Nothing has been read. -/
def start : Progress := ⟨.startRecord, [], [], []⟩

/-- Takes a character into the cell. -/
def keep (p : Progress) (state : State) (c : Char) : Progress :=
  { p with state, cell := c :: p.cell }

/-- Ends the cell. -/
def endCell (p : Progress) : Progress :=
  { p with state := .startCell, cell := [], cells := String.ofList p.cell.reverse :: p.cells }

/-- Ends the cell and the record. -/
def endRecord (p : Progress) : Progress :=
  let p := p.endCell
  { p with state := .startRecord, cells := [], records := p.cells.reverse :: p.records }

/-- Reads a character outside of quotes; a quote opens a cell if `opens` says so. -/
def stepPlain (p : Progress) (opens : Bool) (c : Char) : Progress :=
  if c = '"' ∧ opens then { p with state := .quoted }
  else if c = ',' then p.endCell
  else if c = '\n' ∨ c = '\r' then p.endRecord
  else p.keep .plain c

/-- Reads a character. -/
def step (p : Progress) (c : Char) : Progress :=
  match p.state with
  | .startRecord => if c = '\n' ∨ c = '\r' then p else p.stepPlain true c
  | .startCell => p.stepPlain true c
  | .plain => p.stepPlain false c
  | .quoted => if c = '"' then { p with state := .quoteSeen } else p.keep .quoted c
  | .quoteSeen => if c = '"' then p.keep .quoted c else p.stepPlain false c

/-- All records; one that the end of the text cuts off is complete. -/
def finish (p : Progress) : List (List String) :=
  match p.state with
  | .startRecord => p.records.reverse
  | _ => p.endRecord.records.reverse

end Progress

/-- A text without the byte order mark in front, which is not part of what it says. -/
def stripMark : List Char → List Char
  | [] => []
  | c :: rest => if c.toNat = 0xfeff then rest else c :: rest

/-- The records of a text. -/
def read (s : String) : List (List String) :=
  ((stripMark s.toList).foldl Progress.step .start).finish

end Chargeback.Csv
