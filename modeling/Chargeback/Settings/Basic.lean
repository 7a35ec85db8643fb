import Chargeback.Portfolio.Pricing
import Chargeback.Settings.Layer
import Chargeback.Settings.Value

/-!
# Settings

What stays the same from run to run: where the inventory and the store are, the currency, and how
pricing is set up. The settings of a run come from three layers: the usual ones, those of the
settings file, and those of the environment.
-/

namespace Chargeback

/-- The settings of a run. -/
structure Settings where
  /-- The file of the inventory. -/
  resources : String
  /-- The file of the store. -/
  profiles : String
  /-- The code of the currency. -/
  currency : String
  engine : EngineOptions Float

/-- Why there are no settings. -/
inductive SettingsError where
  /-- The settings file is no JSON object. -/
  | unreadable
  /-- A value does not fit its setting. -/
  | unfitting
deriving DecidableEq, Repr

/-- The wording of an error. -/
def SettingsError.message : SettingsError → String
  | unreadable => "Failed to load configuration"
  | unfitting => "Failed to parse configuration"

namespace Settings

/-- The usual settings. -/
def standard : Settings where
  resources := "inventory.json"
  profiles := "profiles.json"
  currency := "AUD"
  engine := .standard

/-- The document of settings. -/
def toJson (s : Settings) : Json :=
  .obj [("resources_path", .str s.resources), ("profiles_path", .str s.profiles),
    ("currency", .str s.currency), ("engine", s.engine.toJson)]

/-! ## Reading values -/

/-- Reads weights; missing ones are as usual. -/
def readWeights? (j : Json) : Option (Weights Float) := do
  let usual : Weights Float := .standard
  let cpu ← j.optional? 0 ["cpu"] usual.cpu Setting.float?
  let memory ← j.optional? 1 ["memory"] usual.memory Setting.float?
  let storage ← j.optional? 2 ["storage"] usual.storage Setting.float?
  let storageDivisor ← j.optional? 3 ["storage_divisor"] usual.storageDivisor Setting.float?
  return { cpu, memory, storage, storageDivisor }

/-- Reads the options of charging; missing ones are as usual. -/
def readAllocation? (j : Json) : Option (AllocationOptions Float) := do
  let usual : AllocationOptions Float := .standard
  let periods ←
    j.optional? 0 ["amortization_periods"] usual.periods (Setting.natBelow? UInt32.size)
  let weights ← j.optional? 1 ["weights"] usual.weights readWeights?
  return { periods, weights }

/-- Reads the options of pricing; missing ones are as usual. -/
def readEngine? (j : Json) : Option (EngineOptions Float) := do
  let usual : EngineOptions Float := .standard
  let allocation ← j.optional? 0 ["allocation"] usual.allocation readAllocation?
  let parallelThreshold ←
    j.optional? 1 ["parallel_threshold"] usual.parallelThreshold (Setting.natBelow? UInt64.size)
  return { allocation, parallelThreshold }

/-- Reads settings; missing ones are as usual. -/
def read? (j : Json) : Option Settings := do
  let resources ← j.optional? 0 ["resources_path"] standard.resources Setting.text?
  let profiles ← j.optional? 1 ["profiles_path"] standard.profiles Setting.text?
  let currency ← j.optional? 2 ["currency"] standard.currency Setting.text?
  let engine ← j.optional? 3 ["engine"] standard.engine readEngine?
  return { resources, profiles, currency, engine }

/-! ## Layers -/

/-- The layer of a settings file. -/
def fileLayer? (text : String) : Option Setting.Layer :=
  match Json.readUsable? text with
  | some (.obj fields) => some (Setting.fieldsOf (Json.normalize (.obj fields)))
  | _ => none

/-- The text with which the names of all variables of settings begin, in lower case. -/
def variableStart : List Char := ['v', 'm', 'c', '_']

/-- A text with a point in place of every pair of underscores. -/
def pointed : List Char → List Char
  | '_' :: '_' :: rest => '.' :: pointed rest
  | c :: rest => c :: pointed rest
  | [] => []

/-- The path to the setting that a variable of the environment names, if it names one. -/
def variablePath? (name : String) : Option String :=
  let size := variableStart.length
  if (name.toList.take size).map Char.toLower = variableStart then
    some (String.ofList (pointed (Text.lower (name.toList.drop size))))
  else none

/-- The layer of the environment. -/
def environmentLayer (environment : List (String × String)) : Setting.Layer :=
  environment.filterMap fun (name, text) =>
    (variablePath? name).map fun path => (path, Setting.ofText text)

/-- The settings of some layers on top of the usual ones. -/
def ofLayers (layers : List Setting.Layer) : Except SettingsError Settings :=
  match read? (Setting.ofLayers (Setting.fieldsOf (some standard.toJson) :: layers)) with
  | some s => .ok s
  | none => .error .unfitting

/-- The settings of a run, with the text of the settings file if there is one. -/
def load (file : Option String) (environment : List (String × String)) :
    Except SettingsError Settings :=
  match file with
  | none => ofLayers [environmentLayer environment]
  | some text =>
    match fileLayer? text with
    | some layer => ofLayers [layer, environmentLayer environment]
    | none => .error .unreadable

end Settings

end Chargeback
