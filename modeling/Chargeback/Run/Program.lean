import Chargeback.Run.Pricing
import Chargeback.Run.Storing
import Chargeback.Telemetry.Filter

/-!
# The program

The whole program as a function: from the arguments and what the run finds to its exit status, what
it prints and which files it writes.
-/

namespace Chargeback

/-- What a run of the program shows and does. -/
structure Response where
  /-- Zero for success, one for failure, two for a command line that makes no sense. -/
  exitStatus : Nat
  /-- What is printed. -/
  output : String
  /-- The lines about errors. -/
  errors : List String
  /-- The events that are shown. -/
  events : List Event
  /-- Whether they are shown as documents. -/
  jsonEvents : Bool
  /-- The counters, if they are shown. -/
  counters : Option Counters
  /-- The files that are written, each with its text. -/
  writes : List (String × String)

namespace Response

/-- A response that only prints. -/
def printed (output : String) : Response := ⟨0, output, [], [], false, none, []⟩

/-- A response to a run that does not start. -/
def stopped (exitStatus : Nat) (errors : List String) : Response :=
  ⟨exitStatus, "", errors, [], false, none, []⟩

end Response

/-- Runs a command. -/
def Workspace.run (w : Workspace) : Command → RunResult
  | .allocations search uncostedOnly => w.showAllocations search uncostedOnly
  | .explain key => w.explain key
  | .totals top => w.showTotals top
  | .write file => w.writeTable file
  | .store command => w.runStoreCommand command
  | .resources search => w.showResources search

namespace Program

/-- What is printed for the version. -/
def versionText : String := "vmc 0.1.0\n"

/-- What is printed about the use of the program. -/
def usageText : String :=
  "Usage: vmc [OPTIONS] <COMMAND>\n\nCommands:\n" ++
    Report.text ((CommandLine.commands.map Prod.fst).map ("  " ++ ·))

/-- The files that may hold the settings; the first one that there is counts. -/
def settingsFiles (environment : List (String × String)) : List String :=
  match environment.lookup "HOME" with
  | none | some "" => []
  | some home =>
    [home ++ "/.config/vmc/config.json", home ++ "/.config/vmc/config.json.json"]

/-- The text of the settings file, if there is one. -/
def settingsText (s : Surroundings) : Option String :=
  (settingsFiles s.environment).findSome? s.fileText

/-- The response to a request, from the result of its command. -/
def respond (request : Request) (environment : List (String × String)) (r : RunResult) :
    Response where
  exitStatus := if r.failure.isSome then 1 else 0
  output := r.output
  errors := (r.failure.map fun e => Report.failure e.message).toList
  events := r.events.filter (Filter.of request.verbose environment).shows
  jsonEvents := request.jsonEvents
  counters := if request.counters then some r.counters else none
  writes := r.writes

/-- The file that defines a profile for a command. -/
def definitionFile? : Command → Option String
  | .store (.create file) => some file
  | .store (.update _ file) => some file
  | _ => none

/-- The files that a run reads besides the settings, once it has the settings. -/
def filesRead (arguments : List String) (s : Surroundings) : List String :=
  match CommandLine.read arguments s.environment, Settings.load (settingsText s) s.environment with
  | .ok request, .ok settings =>
    let w := Workspace.of request settings s
    [w.resources, w.profiles] ++ (definitionFile? request.command).toList
  | _, _ => []

/-- Runs the program. -/
def run (arguments : List String) (s : Surroundings) : Response :=
  match CommandLine.read arguments s.environment with
  | .error .version => .printed versionText
  | .error .help => .printed usageText
  | .error .misuse => .stopped 2 ["Usage: vmc [OPTIONS] <COMMAND>"]
  | .ok request =>
    match Settings.load (settingsText s) s.environment with
    | .error e => .stopped 1 ["Error: " ++ e.message]
    | .ok settings =>
      respond request s.environment ((Workspace.of request settings s).run request.command)

end Program

end Chargeback
