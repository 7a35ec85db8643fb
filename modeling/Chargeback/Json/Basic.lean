import Chargeback.TextMap
import Chargeback.Number.Reader

/-!
# JSON values

A JSON value as the documents of this library use it. Whole numbers are kept apart from all others,
because a number that becomes the text of a tag shows which it was. An object keeps its fields in
the order of the text and keeps repeated names, so that a reader of records can refuse them;
`Json.normalize` gives the value in which each name occurs once.

A text can be well formed and hold parts that stand for no value. They do no harm where nobody
looks, so a reader of texts keeps their places, and `Json.isUsable` says that a value has no such
part.
-/

namespace Chargeback

/-- A JSON value. -/
inductive Json where
  | null
  | bool (value : Bool)
  /-- A number without fraction and exponent, between `-2 ^ 63` and `2 ^ 64`. -/
  | int (value : Int)
  /-- Any other number. -/
  | float (value : Float)
  | str (value : String)
  | arr (items : List Json)
  | obj (fields : List (String × Json))
  /-- The place of a part of a text that stands for no value. -/
  | unusable

namespace Json

/-- The JSON value of a double: what is not finite has none and becomes `null`. -/
def ofFloat (x : Float) : Json := if x.isFinite then .float x else .null

/-- The JSON value of a natural number. -/
def ofNat (n : Nat) : Json := .int n

/-- The JSON value of a list. -/
def ofList {α : Type} (f : α → Json) (l : List α) : Json := .arr (l.map f)

/-- The JSON value of an optional value; absent ones are `null`. -/
def ofOption {α : Type} (f : α → Json) : Option α → Json
  | some a => f a
  | none => .null

/-- The object of a map. -/
def ofTextMap {α : Type} (f : α → Json) (m : TextMap α) : Json :=
  .obj (m.entries.map fun e => (e.1, f e.2))

/-- A field that is left out when there is no value. -/
def optionalField {α : Type} (name : String) (f : α → Json) : Option α → List (String × Json)
  | some a => [(name, f a)]
  | none => []

mutual

/-- The value with the fields of every object sorted by name; of repeated names the last counts. -/
def normalize : Json → Json
  | .arr items => .arr (normalizeItems items)
  | .obj fields => .obj (TextMap.ofList (normalizeFields fields)).entries
  | j => j

/-- Every item with its objects normalized. -/
def normalizeItems : List Json → List Json
  | [] => []
  | j :: rest => normalize j :: normalizeItems rest

/-- Every field with its objects normalized. -/
def normalizeFields : List (String × Json) → List (String × Json)
  | [] => []
  | (name, j) :: rest => (name, normalize j) :: normalizeFields rest

end

mutual

/-- Whether every part of a value stands for something. -/
def isUsable : Json → Bool
  | .unusable => false
  | .arr items => areUsable items
  | .obj fields => areUsableFields fields
  | _ => true

/-- Whether every part of every item stands for something. -/
def areUsable : List Json → Bool
  | [] => true
  | j :: rest => isUsable j && areUsable rest

/-- Whether every part of every field stands for something. -/
def areUsableFields : List (String × Json) → Bool
  | [] => true
  | (_, j) :: rest => isUsable j && areUsableFields rest

end

mutual

/-- How many arrays and objects stand inside one another. -/
def depth : Json → Nat
  | .arr items => depthItems items + 1
  | .obj fields => depthFields fields + 1
  | _ => 0

/-- The greatest depth among items. -/
def depthItems : List Json → Nat
  | [] => 0
  | j :: rest => max (depth j) (depthItems rest)

/-- The greatest depth among fields. -/
def depthFields : List (String × Json) → Nat
  | [] => 0
  | (_, j) :: rest => max (depth j) (depthFields rest)

end

end Json

end Chargeback
