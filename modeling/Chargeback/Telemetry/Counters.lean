import Chargeback.Pricing.Breakdown

/-!
# Counters

How many resources a run has priced, by which profiles, and how often it had to fall back on a
default. The text lists every counter with its meaning, in order of the names.

Beside these counters a run measures how long pricing takes, and its text begins with the lines of
this histogram, `vmcost_aggregation_duration_seconds`. A run is a function here and takes no time, so
these lines are left out.
-/

namespace Chargeback

/-- The counters of a run. -/
structure Counters where
  /-- Resources that were priced or found to have no profile. -/
  evaluated : Nat
  /-- Resources without a profile. -/
  uncosted : Nat
  /-- Resources per profile. -/
  matched : TextMap Nat
  /-- Degraded items. -/
  degraded : Nat
deriving DecidableEq

namespace Counters

/-- The counters at the start. -/
def zero : Counters := ⟨0, 0, ∅, 0⟩

/-- Counts a breakdown. -/
def record {α : Type} (c : Counters) (b : Breakdown α) : Counters where
  evaluated := c.evaluated + 1
  uncosted := if b.profile?.isSome then c.uncosted else c.uncosted + 1
  matched := match b.profile? with
    | some name => c.matched.alter name fun count => count.getD 0 + 1
    | none => c.matched
  degraded := c.degraded + b.degradedItems

/-- Counts the breakdowns of a run. -/
def of {α : Type} (breakdowns : List (Breakdown α)) : Counters := breakdowns.foldl record zero

/-! ## Text -/

/-- The value of a label, with its backslashes, quotes and line ends escaped. -/
def labelText (s : String) : String :=
  String.ofList (s.toList.flatMap fun c =>
    if c = '\\' then ['\\', '\\']
    else if c = '"' then ['\\', '"']
    else if c = '\n' then ['\\', 'n']
    else [c])

/-- The lines of a counter: its meaning, its kind and its samples. -/
def family (name meaning : String) (samples : List String) : List String :=
  ("# HELP " ++ name ++ " " ++ meaning) :: ("# TYPE " ++ name ++ " counter") ::
    samples.map (name ++ ·)

/-- A sample without a label. -/
def sample (count : Nat) : String := " " ++ Number.natText count

/-- The samples of the profiles, each with its name as a label. -/
def profileSamples (matched : TextMap Nat) : List String :=
  matched.entries.map fun (name, count) =>
    "\x7bprofile=\"" ++ labelText name ++ "\"\x7d" ++ sample count

/-- The lines of the profiles, if there are any. -/
def profileFamily (matched : TextMap Nat) : List String :=
  match profileSamples matched with
  | [] => []
  | samples =>
    family "vmcost_profile_matches_total" "Resources priced by each cost profile" samples

/-- The lines of all counters, without those of the histogram of durations. -/
def lines (c : Counters) : List String :=
  family "vmcost_degraded_line_items_total"
    "Line items priced with a fallback for unusable component data" [sample c.degraded] ++
  profileFamily c.matched ++
  family "vmcost_resources_evaluated_total" "Resources run through profile matching"
    [sample c.evaluated] ++
  family "vmcost_resources_uncosted_total" "Resources no published profile matched"
    [sample c.uncosted]

end Counters

end Chargeback
