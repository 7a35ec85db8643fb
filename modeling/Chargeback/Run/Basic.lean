import Chargeback.CommandLine.Command
import Chargeback.Inventory.Basic
import Chargeback.Settings.Basic
import Chargeback.Store.Change
import Chargeback.Telemetry.Counters
import Chargeback.Report.Table

/-!
# Runs

What a run of a command finds and what comes of it. A run finds files, the time and an identifier
that nobody has used; it prints, reports events, counts, writes files, and may fail in the end. All
of this is a value, so a run is a function from what it finds to what comes of it.
-/

namespace Chargeback

/-- What a run finds. -/
structure Surroundings where
  /-- The text of a file, if it can be read. -/
  fileText : String → Option String
  /-- Whether a file can be written. -/
  canWrite : String → Bool
  /-- The variables of the environment. -/
  environment : List (String × String)
  now : Instant
  /-- The identifier of the next new profile. -/
  freshId : String

/-- Why a command fails. -/
inductive RunError where
  | inventory (error : InventoryError)
  | change (error : ChangeError)
  /-- The file of the store cannot be read. -/
  | storeUnreadable (file : String)
  /-- The file of the store is no store. -/
  | storeMalformed (file : String)
  /-- The file that defines a profile cannot be read. -/
  | definitionUnreadable (file : String)
  /-- The file that defines a profile does not define one. -/
  | definitionMalformed (file : String)
  /-- The file of the store cannot be written. -/
  | storeUnwritable (file : String)
  /-- The file of the table cannot be written. -/
  | tableUnwritable (file : String)
  /-- Some of the validated profiles have problems. -/
  | invalid (count total : Nat)
deriving DecidableEq, Repr

/-- The wording of an error. -/
def RunError.message : RunError → String
  | inventory error => error.message
  | change error => error.message
  | storeUnreadable file => "Failed to read profile store " ++ file
  | storeMalformed file => "Failed to parse profile store " ++ file
  | definitionUnreadable file => "Failed to read profile " ++ file
  | definitionMalformed file => "Failed to parse profile " ++ file
  | storeUnwritable file => "Failed to write profile store " ++ file
  | tableUnwritable file => "Failed to create " ++ file
  | invalid count total =>
    Number.natText count ++ " of " ++ Number.natText total ++ " profile(s) failed validation"

/-- What comes of a command. -/
structure RunResult where
  /-- The text that is printed. -/
  output : String
  events : List Event
  counters : Counters
  /-- The files that are written, each with its text. -/
  writes : List (String × String)
  /-- Why the command fails, if it does. -/
  failure : Option RunError

namespace RunResult

/-- The result of a command that only prints. -/
def printed (output : String) : RunResult := ⟨output, [], .zero, [], none⟩

/-- The result of a command that fails after some events. -/
def failed (events : List Event) (error : RunError) : RunResult :=
  ⟨"", events, .zero, [], some error⟩

/-- The result with events in front. -/
def after (events : List Event) (r : RunResult) : RunResult :=
  { r with events := events ++ r.events }

end RunResult

/-- What the commands work on. -/
structure Workspace where
  /-- The file of the inventory. -/
  resources : String
  /-- The file of the store. -/
  profiles : String
  currency : String
  engine : EngineOptions Float
  format : Format
  surroundings : Surroundings

namespace Workspace

/-- The workspace of a request: its options count for more than the settings. -/
def of (request : Request) (settings : Settings) (surroundings : Surroundings) : Workspace where
  resources := request.resources.getD settings.resources
  profiles := request.profiles.getD settings.profiles
  currency := request.currency.getD settings.currency
  engine := settings.engine
  format := request.format
  surroundings := surroundings

/-- The text of a report, for people or as a document. -/
def render (w : Workspace) (lines : List String) (document : Json) : String :=
  match w.format with
  | .table => Report.text lines
  | .json => Report.text [document.pretty]

/-- Reads the store. -/
def readStore (w : Workspace) : Except RunError (Store Float) :=
  match w.surroundings.fileText w.profiles with
  | none => .error (.storeUnreadable w.profiles)
  | some text =>
    match Store.read? text with
    | some store => .ok store
    | none => .error (.storeMalformed w.profiles)

/-- Reads the definition of a profile from a file. -/
def readDefinition (w : Workspace) (file : String) : Except RunError (Profile Float) :=
  match w.surroundings.fileText file with
  | none => .error (.definitionUnreadable file)
  | some text =>
    match (Json.read? text).bind Profile.read? with
    | some p => .ok p
    | none => .error (.definitionMalformed file)

/-- Goes on with the store, if it can be read. -/
def withStore (w : Workspace) (f : Store Float → RunResult) : RunResult :=
  match w.readStore with
  | .ok store => f store
  | .error e => .failed [] e

/-- Goes on with the inventory, if it can be read. -/
def withInventory (w : Workspace) (f : List (Resource Float) → RunResult) : RunResult :=
  let reading := Inventory.read w.resources (w.surroundings.fileText w.resources)
  match reading.result with
  | .ok inventory => (f inventory).after reading.events
  | .error e => .failed reading.events (.inventory e)

end Workspace

end Chargeback
