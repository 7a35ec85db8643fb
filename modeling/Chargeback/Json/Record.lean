import Chargeback.Json.Reader
import Chargeback.Json.Printer
import Chargeback.Scalar

/-!
# Reading records

How a JSON value is read as a record. An object gives the fields by name: each field has one or
more accepted names, names that no field accepts are passed over, and a field given twice makes the
record malformed. An array gives the fields by position, and the last ones may be missing. Either
way a missing field takes its default, if it has one.

Lenient fields accept every value: what cannot be read becomes zero, an empty text or no tags, so
that one bad value does not make a document unreadable. Only a part that stands for no value is
refused, and that only in a field: whatever is passed over may be as it likes.
-/

namespace Chargeback.Json

/-- The value that a record gives for a field, `some none` when it gives none. -/
def slot? (position : Nat) (names : List String) : Json → Option (Option Json)
  | .arr items => some items[position]?
  | .obj fields =>
    match fields.filter fun field => names.contains field.1 with
    | [] => some none
    | [field] => some (some field.2)
    | _ => none
  | _ => none

/-- Whether a value can be a record of so many fields. -/
def isRecord (size : Nat) : Json → Bool
  | .arr items => items.length ≤ size
  | .obj _ => true
  | _ => false

variable {α : Type}

/-- Reads a field that must be given. -/
def required? (j : Json) (position : Nat) (names : List String) (read : Json → Option α) :
    Option α :=
  match j.slot? position names with
  | some (some value) => read value
  | _ => none

/-- Reads a field that may be missing. -/
def optional? (j : Json) (position : Nat) (names : List String) (default : α)
    (read : Json → Option α) : Option α :=
  match j.slot? position names with
  | some (some value) => read value
  | some none => some default
  | none => none

/-! ## Strict values -/

/-- A string. -/
def str? : Json → Option String
  | .str s => some s
  | _ => none

/-- Whatever `read` accepts, or `null` for nothing. -/
def nullable? (read : Json → Option α) : Json → Option (Option α)
  | .null => some none
  | j => (read j).map some

/-- A boolean. -/
def bool? : Json → Option Bool
  | .bool b => some b
  | _ => none

/-- A whole number below a limit. -/
def natBelow? (limit : Nat) : Json → Option Nat
  | .int n => if 0 ≤ n ∧ n < limit then some n.toNat else none
  | _ => none

/-- The double nearest to a whole number. -/
def floatOfInt (n : Int) : Float := Number.nearest (decide (n < 0)) n.natAbs 1

/-- Any number, as a double. -/
def float? : Json → Option Float
  | .int n => some (floatOfInt n)
  | .float x => some x
  | _ => none

/-- An array whose items can all be read. -/
def list? (read : Json → Option α) : Json → Option (List α)
  | .arr items => items.mapM read
  | _ => none

/-- The name of an alternative: a string, or an object whose only field has that name and holds
nothing. -/
def variant? : Json → Option String
  | .str name => some name
  | .obj [(name, .null)] => some name
  | _ => none

/-! ## Lenient values -/

/-- Every value, read in a lenient way. -/
def lenient? (read : Json → α) (j : Json) : Option α := if j.isUsable then some (read j) else none

/-- A number, or the number that a text spells; zero for everything else. -/
def lenientFloat : Json → Float
  | .int n => floatOfInt n
  | .float x => if x.isFinite then x else 0.0
  | .str s => (Scalar.parse? s).getD 0.0
  | _ => 0.0

/-- A string, or the text of a number or truth value; empty for everything else. -/
def lenientText : Json → String
  | .str s => s
  | .int n => String.ofList (intText n)
  | .float x => String.ofList (floatText x)
  | .bool b => if b then "true" else "false"
  | _ => ""

/-- The text of a tag's value. Nested values keep their JSON text; `null` has none. -/
def tagText : Json → Option String
  | .null => none
  | .str s => some s
  | j => some (compact j)

/-- The tags of a value: the fields of an object as texts. Anything else has no tags. -/
def tags : Json → TextMap String
  | .obj fields => (TextMap.ofList (normalizeFields fields)).filterMap tagText
  | _ => ∅

end Chargeback.Json
