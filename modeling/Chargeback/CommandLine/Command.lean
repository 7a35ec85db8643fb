import Chargeback.CommandLine.Scanner
import Chargeback.Profile.Basic

/-!
# Commands

What the program can be told to do, and how it is told so on a command line. The options of the
program itself stand in front of the command. The inventory and the store can also be named by
variables of the environment, which count for less than options.
-/

namespace Chargeback

/-- How a report is given. -/
inductive Format where
  /-- For people. -/
  | table
  /-- As a document. -/
  | json
deriving DecidableEq, Repr

/-- What can be done with the store. -/
inductive StoreCommand where
  /-- Lists the profiles, perhaps only those of a status. -/
  | list (status : Option Status)
  /-- Lists the problems of a profile, or of all. -/
  | validate (key : Option String)
  /-- Adds the profile that a file defines. -/
  | create (file : String)
  /-- Gives a profile the content that a file defines. -/
  | update (key file : String)
  /-- Moves a profile to another status. -/
  | move (key : String) (target : Status)
  /-- Takes a profile out. -/
  | delete (key : String)
deriving DecidableEq, Repr

/-- What the program can do. -/
inductive Command where
  /-- Shows what resources cost. -/
  | allocations (search : Option String) (uncostedOnly : Bool)
  /-- Explains how a resource was priced. -/
  | explain (key : String)
  /-- Shows the totals and the most expensive resources. -/
  | totals (top : Nat)
  /-- Writes all charges as a table, to a file or to the output. -/
  | write (file : Option String)
  /-- Works on the store. -/
  | store (command : StoreCommand)
  /-- Shows the inventory. -/
  | resources (search : Option String)
deriving DecidableEq, Repr

/-- What a command line asks for. -/
structure Request where
  /-- The file of the inventory, if it is named. -/
  resources : Option String
  /-- The file of the store, if it is named. -/
  profiles : Option String
  format : Format
  /-- The currency, if it is named. -/
  currency : Option String
  /-- Whether all events are shown. -/
  verbose : Bool
  /-- Whether events are shown as documents. -/
  jsonEvents : Bool
  /-- Whether the counters are shown. -/
  counters : Bool
  command : Command
deriving DecidableEq, Repr

namespace CommandLine

/-! ## What commands accept -/

/-- The names of the formats. -/
def formats : List (String × Format) := [("table", .table), ("json", .json)]

/-- The commands of the store. -/
def storeCommands : List String :=
  ["list", "validate", "create", "update", "submit", "publish", "unpublish", "delete"]

/-- The commands of the program. -/
def commands : List (String × List String) :=
  [("allocations", []), ("explain", []), ("totals", []), ("export", []),
   ("profiles", storeCommands), ("resources", [])]

/-- What may stand in front of the command. -/
def programGrammar : Grammar where
  choices :=
    [.path "resources" none, .path "profiles" none,
     ⟨"format", some 'f', some fun s => (formats.lookup s).isSome⟩, .any "currency" none,
     .switch "verbose" (some 'v'), .switch "log-json" none, .switch "metrics" none]
  words := 0
  commands := commands
  versioned := true

/-- What may stand behind a command without commands of its own. -/
def leaf (choices : List Choice) (words : Nat) : Grammar where
  choices := choices
  words := words
  commands := []
  versioned := false

/-- What may stand behind the word for the store. -/
def storeGrammar : Grammar where
  choices := []
  words := 0
  commands := storeCommands.map (·, [])
  versioned := false

/-- The option for a search. -/
def search : Choice := .any "search" (some 's')

/-- The natural number below `2 ^ 64` that a text spells. -/
def natural? (s : String) : Option Nat := (Number.readNatural? s.toList).filter (· < UInt64.size)

/-! ## Reading commands -/

/-- Something that has to be given. -/
def required {α : Type} : Option α → Except Stop α
  | some a => .ok a
  | none => .error .misuse

/-- The key behind a command that takes nothing else. -/
def readKey (arguments : List String) : Except Stop String := do
  let found ← (leaf [] 1).scan arguments
  required found.words.head?

/-- Reads a command of the store. -/
def readStoreCommand (name : String) (arguments : List String) : Except Stop StoreCommand := do
  match name with
  | "list" =>
    let status : Choice := ⟨"status", none, some fun s => (Status.names.lookup s).isSome⟩
    let found ← (leaf [status] 0).scan arguments
    return .list ((found.value? "status").bind fun s => Status.names.lookup s)
  | "validate" =>
    let found ← (leaf [] 1).scan arguments
    return .validate found.words.head?
  | "create" =>
    let found ← (leaf [.path "from" none] 0).scan arguments
    return .create (← required (found.value? "from"))
  | "update" =>
    let found ← (leaf [.path "from" none] 1).scan arguments
    return .update (← required found.words.head?) (← required (found.value? "from"))
  | "submit" => return .move (← readKey arguments) .inReview
  | "publish" => return .move (← readKey arguments) .published
  | "unpublish" => return .move (← readKey arguments) .draft
  | "delete" => return .delete (← readKey arguments)
  | _ => .error .misuse

/-- How many resources are ranked if nothing else is said. -/
def defaultTop : Nat := 5

/-- Reads a command of the program. -/
def readCommand (name : String) (arguments : List String) : Except Stop Command := do
  match name with
  | "allocations" =>
    let found ← (leaf [search, .switch "uncosted-only" none] 0).scan arguments
    return .allocations (found.value? "search") (found.has "uncosted-only")
  | "explain" => return .explain (← readKey arguments)
  | "totals" =>
    let top : Choice := ⟨"top", none, some fun s => (natural? s).isSome⟩
    let found ← (leaf [top] 0).scan arguments
    return .totals (((found.value? "top").bind natural?).getD defaultTop)
  | "export" =>
    let found ← (leaf [.path "output" (some 'o')] 0).scan arguments
    return .write (found.value? "output")
  | "profiles" =>
    let found ← storeGrammar.scan arguments
    let (name, arguments) ← required found.command
    return .store (← readStoreCommand name arguments)
  | "resources" =>
    let found ← (leaf [search] 0).scan arguments
    return .resources (found.value? "search")
  | _ => .error .misuse

/-- The file that an option names, or else a variable of the environment, which must not be empty
then. -/
def readFile (found : Found) (environment : List (String × String)) (option name : String) :
    Except Stop (Option String) :=
  match found.value? option, environment.lookup name with
  | some file, _ => .ok (some file)
  | none, some file => if file = "" then .error .misuse else .ok (some file)
  | none, none => .ok none

/-- Reads a command line. -/
def read (arguments : List String) (environment : List (String × String)) :
    Except Stop Request := do
  let found ← programGrammar.scan arguments
  let (name, rest) ← required found.command
  let command ← readCommand name rest
  let resources ← readFile found environment "resources" "VMC_RESOURCES"
  let profiles ← readFile found environment "profiles" "VMC_PROFILES"
  return {
    resources
    profiles
    format := ((found.value? "format").bind fun s => formats.lookup s).getD .table
    currency := found.value? "currency"
    verbose := found.has "verbose"
    jsonEvents := found.has "log-json"
    counters := found.has "metrics"
    command }

end CommandLine

end Chargeback
