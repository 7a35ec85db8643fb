import Chargeback.Telemetry.Event
import Chargeback.Text.Search

/-!
# Which events are shown

A filter is a list of directives. A directive says from which level on it shows the events that it
is about: all of them, or those of the topics that begin with its text and have its fields. Of the
directives that are about an event, the one that says most about it decides, and among equals the
last one.

Written out, the directives have commas between them: `info`, `topic=debug`, `topic`, or
`[{field}]=warn`. What stands in brackets in front of the braces names a span of time; as no event
of this library lies in one, such a directive shows nothing.
-/

namespace Chargeback

/-- How far down the levels one must go to see an event. -/
def Level.depth : Level → Nat
  | .warning => 2
  | .info => 3
  | .debug => 4

/-- A rule about the events that are shown. -/
structure Directive where
  /-- The beginning of the topics that the rule is about, if it is not about all. -/
  topic : Option String
  /-- The fields that an event must have. -/
  fields : List String
  /-- How far down the levels events are shown, from nothing at 0 to everything at 5. -/
  depth : Nat
deriving DecidableEq, Repr

namespace Directive

/-- Whether a directive is about an event. -/
def isAbout (d : Directive) (e : Event) : Bool :=
  (d.topic.getD "").toList.isPrefixOf e.topic.toList &&
    d.fields.all fun field => ("message" :: e.fields.map Prod.fst).contains field

/-- How much a directive says about the topic. -/
def topicWeight (d : Directive) : Nat :=
  match d.topic with
  | some topic => topic.length + 1
  | none => 0

/-- Whether the second of two directives about an event decides: it says more about the topic, or
as much about it and more about the fields. -/
def yields (a b : Directive) : Bool :=
  if a.topicWeight = b.topicWeight then
    if a.fields.length = b.fields.length then decide (¬ b.fields < a.fields)
    else decide (a.fields.length < b.fields.length)
  else decide (a.topicWeight < b.topicWeight)

/-! ## Reading -/

/-- The words for how far down the levels events are shown. -/
def depthWords : List String := ["off", "error", "warn", "info", "debug", "trace"]

/-- The depth that a text names, by its word or by its number. -/
def readDepth? (s : List Char) : Option Nat :=
  let digits := if s.head? = some '+' then s.drop 1 else s
  let number := Number.natOfDigits 0 digits
  if digits ≠ [] ∧ digits.all Char.isDigit then
    if number ≤ 5 then some number else none
  else depthWords.findIdx? (Text.sameLetters (String.ofList s))

/-- What brackets say about the events: the fields that they must have. -/
inductive Scope where
  | events (fields : List String)
  /-- No event is meant. -/
  | nothing
deriving DecidableEq, Repr

/-- Reads the fields between braces. A field with a value is none that an event has. -/
def readFields? (s : List Char) : Option Scope :=
  let fields := Text.splitAll ',' s
  if fields.contains [] then none
  else if fields.any (·.contains '=') then some .nothing
  else some (.events (fields.map String.ofList))

/-- Reads what stands behind an opening bracket, up to and with the closing one. -/
def readScope? (s : List Char) : Option (Scope × List Char) :=
  let inName (c : Char) : Bool := c ≠ ']' && c ≠ '\x7b'
  match s.dropWhile inName with
  | ']' :: rest => some (.nothing, rest)
  | '\x7b' :: rest =>
    match Text.cutAt? '\x7d' rest with
    | some (fields, ']' :: rest) =>
      (readFields? fields).map fun scope =>
        (if s.takeWhile inName = [] then scope else .nothing, rest)
    | _ => none
  | _ => none

/-- A directive as it is written. -/
structure Parts where
  /-- What stands in front of brackets and equals sign. -/
  head : List Char
  /-- What the brackets say, if there are any. -/
  scope : Option Scope
  /-- What stands behind the equals sign, if there is one. -/
  depth : Option (List Char)
deriving DecidableEq, Repr

/-- Whether a directive may start with a character. Outside ASCII any one will do. -/
def isStart (c : Char) : Bool :=
  c.isAlphanum || c = '[' || c = '-' || c = ':' || c = '_' || 0x80 ≤ c.toNat

/-- Takes a text apart. -/
def readParts? (s : List Char) : Option Parts :=
  let inHead (c : Char) : Bool := c ≠ '=' && c ≠ '['
  let head := s.takeWhile inHead
  if !(s.head?.map isStart).getD false then none
  else match s.dropWhile inHead with
    | '[' :: rest =>
      match readScope? rest with
      | some (scope, '=' :: depth) => some ⟨head, some scope, some depth⟩
      | some (scope, rest) => if rest.all Text.isBlank then some ⟨head, some scope, none⟩ else none
      | none => none
    | '=' :: depth => some ⟨head, none, some depth⟩
    | _ => some ⟨head, none, none⟩

/-- The directives that the parts make: one, or none if no event is meant. A directive without a
depth shows everything, and a depth by itself is about all events. -/
def ofParts? (parts : Parts) : Option (List Directive) := do
  let topic := if parts.head = [] then none else some (String.ofList parts.head)
  let depth ← match parts.depth with
    | none | some [] => some 5
    | some text => readDepth? text
  match parts.scope with
  | some .nothing => some []
  | some (.events fields) => some [⟨topic, fields, depth⟩]
  | none =>
    match parts.depth, readDepth? parts.head with
    | none, some depth => some [⟨none, [], depth⟩]
    | _, _ => some [⟨topic, [], depth⟩]

/-- Reads a directive. With blanks in front it may not name a depth, and means no event. -/
def read? (s : List Char) : Option (List Directive) := do
  let parts ← readParts? (Text.trimStart s)
  if (s.head?.map Text.isBlank).getD false then
    if parts.depth.isSome then none else some []
  else ofParts? parts

end Directive

/-- Which events are shown. -/
abbrev Filter := List Directive

namespace Filter

/-- Shows warnings. -/
def warnings : Filter := [⟨none, [], Level.warning.depth⟩]

/-- Shows all events. -/
def all : Filter := [⟨none, [], Level.debug.depth⟩]

/-- The directive that decides about an event. -/
def deciding? (f : Filter) (e : Event) : Option Directive :=
  (f.filter (·.isAbout e)).foldl (fun best d =>
    match best with
    | none => some d
    | some b => if b.yields d then some d else some b) none

/-- Whether an event is shown. -/
def shows (f : Filter) (e : Event) : Bool :=
  match f.deciding? e with
  | some d => e.level.depth ≤ d.depth
  | none => false

/-- A filter with one directive about all events shows those down to its depth. -/
theorem shows_singleton (depth : Nat) (e : Event) :
    shows [⟨none, [], depth⟩] e = decide (e.level.depth ≤ depth) := by
  simp [shows, deciding?, Directive.isAbout]

/-- Nothing is hidden by the filter for all events. -/
theorem shows_all (e : Event) : all.shows e = true := by
  rw [all, shows_singleton]
  cases e.level <;> rfl

/-- Reads a filter. One malformed directive makes it malformed. -/
def parse? (s : String) : Option Filter :=
  (((Text.splitAll ',' s.toList).filter (· ≠ [])).mapM Directive.read?).map List.flatten

/-- The variable of the environment that holds a filter. -/
def source : String := "RUST_LOG"

/-- The filter of a run: a verbose one shows all events; otherwise the environment decides, and
without a filter that can be read there, warnings are shown. -/
def of (verbose : Bool) (environment : List (String × String)) : Filter :=
  if verbose then all
  else ((environment.lookup source).bind parse?).getD warnings

end Filter

end Chargeback
