import Chargeback.Inventory.Row
import Chargeback.Telemetry.Event

/-!
# Inventories

An inventory is the list of the resources to be priced. It is read from a JSON document or, if the
name of its file says so, from a table. Reading a table goes on as far as its first bad row, and
the warnings of the rows in front of it are given in either case.
-/

namespace Chargeback

/-- Why an inventory cannot be used. -/
inductive InventoryError where
  /-- The file of a document cannot be read. -/
  | unreadable (file : String)
  /-- The file is no list of resources. -/
  | malformed (file : String)
  /-- The file of a table cannot be read. -/
  | unopened (file : String)
  /-- A row of a table is no resource; the header is the first row. -/
  | badRow (row : Nat) (file : String)
  /-- No resource has the key as its identifier or name. -/
  | resourceNotFound (key : String)
deriving DecidableEq, Repr

/-- The wording of an error. -/
def InventoryError.message : InventoryError → String
  | unreadable file => "Failed to read inventory " ++ file
  | malformed file => "Failed to parse inventory " ++ file
  | unopened file => "Failed to open inventory " ++ file
  | badRow row file => "Invalid inventory row " ++ Number.natText row ++ " in " ++ file
  | resourceNotFound key => "no resource with id or name '" ++ key ++ "'"

/-! ## File names -/

namespace FileName

/-- The parts of a path, which stand between slashes. Empty parts and parts that name the current
directory do not count. -/
def parts (path : String) : List String :=
  ((Text.splitAll '/' path.toList).map String.ofList).filter fun part => part ≠ "" && part ≠ "."

/-- The name of the file that a path ends with. -/
def fileName? (path : String) : Option String :=
  match (parts path).getLast? with
  | some ".." => none
  | name => name

/-- The part of a file name behind its last point, if there is anything in front of the point. -/
def extensionOf? (name : String) : Option String :=
  match Text.cutAt? '.' name.toList.reverse with
  | some (_, []) => none
  | some (after, _) => some (String.ofList after.reverse)
  | none => none

/-- The extension of the file that a path ends with. -/
def extension? (path : String) : Option String := (fileName? path).bind extensionOf?

end FileName

/-! ## Reading -/

namespace Inventory

/-- What reading an inventory gives: the resources or an error, and the events on the way. -/
structure Reading where
  events : List Event
  result : Except InventoryError (List (Resource Float))

/-- Whether the name of a file says that it holds a table. -/
def isTable (file : String) : Bool :=
  match FileName.extension? file with
  | some extension => Text.sameLetters extension "csv"
  | none => false

/-- Reads the text of a document. -/
def readDocument (file text : String) : Except InventoryError (List (Resource Float)) :=
  match (Json.read? text).bind (Json.list? Resource.read?) with
  | some resources => .ok resources
  | none => .error (.malformed file)

/-- The warning about the tags of a row, if they cannot be read. -/
def rowEvents (row : Row) (r : Resource Float) : List Event :=
  if row.tags?.isSome then [] else [.tagsIgnored r.id]

/-- Reads the rows of a table behind its header; the first one has the given number. -/
def readRows (file : String) (header : List String) (number : Nat) : List (List String) → Reading
  | [] => ⟨[], .ok []⟩
  | cells :: rest =>
    match (Row.of? header cells).bind fun row => row.resource?.map (row, ·) with
    | none => ⟨[], .error (.badRow number file)⟩
    | some (row, r) =>
      let others := readRows file header (number + 1) rest
      ⟨rowEvents row r ++ others.events, others.result.map (r :: ·)⟩

/-- Reads the text of a table. -/
def readTable (file text : String) : Reading :=
  match Csv.read text with
  | [] => ⟨[], .ok []⟩
  | header :: rows => readRows file header 2 rows

/-- Reads an inventory from a file, whose text is given if there is one. -/
def read (file : String) (text : Option String) : Reading :=
  match isTable file, text with
  | true, some text => readTable file text
  | true, none => ⟨[], .error (.unopened file)⟩
  | false, some text => ⟨[], readDocument file text⟩
  | false, none => ⟨[], .error (.unreadable file)⟩

/-- The resource that a key addresses: by its identifier, or else by its name without regard to the
case of ASCII letters. -/
def find {α : Type} (resources : List (Resource α)) (key : String) :
    Except InventoryError (Resource α) :=
  match (resources.find? fun r => r.id == key).or
      (resources.find? fun r => Text.sameLetters r.name key) with
  | some r => .ok r
  | none => .error (.resourceNotFound key)

end Inventory

end Chargeback
