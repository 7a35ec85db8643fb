import Chargeback.Money
import Chargeback.Rule.Field

/-!
# Conditions

A condition compares a field of a resource with a text. Two values are equal when their texts are
identical or both read as the same finite number; the orderings ask for finite numbers on both
sides; containment ignores case. A field that a resource does not have equals nothing, contains
nothing and has no order.
-/

namespace Chargeback

/-- How a condition compares. -/
inductive Comparison where
  | equals
  | notEquals
  | greaterThan
  | lessThan
  | greaterOrEqual
  | lessOrEqual
  | contains
  | notContains
  /-- A comparison that no rule knows; it never holds. -/
  | unknown
deriving DecidableEq, Repr

/-- A comparison of a field with a text. -/
structure Condition where
  /-- What is looked at. -/
  field : Field
  /-- How it is compared. -/
  comparison : Comparison
  /-- What it is compared with. -/
  value : String
deriving DecidableEq, Repr

namespace FieldValue

variable {α : Type} [Scalar α]

/-- The finite number that a value is or spells. -/
def number? : FieldValue α → Option α
  | .number x => some x
  | .text s => Scalar.parse? s
  | .absent => none

/-- The text that a value is or displays. -/
def text? : FieldValue α → Option String
  | .number x => some (Scalar.display x)
  | .text s => some s
  | .absent => none

/-- Whether a value and a text are the same text, or read as the same finite number. -/
def looselyEquals (v : FieldValue α) (rhs : String) : Bool :=
  match v with
  | .absent => false
  | .number x => match Scalar.parse? (α := α) rhs with
    | some y => y == x
    | none => false
  | .text s => s == rhs ||
    match Scalar.parse? (α := α) s, Scalar.parse? (α := α) rhs with
    | some x, some y => x == y
    | _, _ => false

/-- Whether two numbers, one of them spelled by a text, stand in a given order. -/
def ordered (v : FieldValue α) (rhs : String) (order : α → α → Bool) : Bool :=
  match v.number?, Scalar.parse? rhs with
  | some x, some y => order x y
  | _, _ => false

/-- Whether the text of a value holds another text, case aside. -/
def holdsText (v : FieldValue α) (rhs : String) : Bool :=
  match v.text? with
  | some s => Text.occursIn (Text.lower rhs.toList) (Text.lower s.toList)
  | none => false

/-- Whether a comparison holds. -/
def compare (v : FieldValue α) (comparison : Comparison) (rhs : String) : Bool :=
  match comparison with
  | .equals => v.looselyEquals rhs
  | .notEquals => !v.looselyEquals rhs
  | .greaterThan => v.ordered rhs fun x y => Scalar.less y x
  | .lessThan => v.ordered rhs Scalar.less
  | .greaterOrEqual => v.ordered rhs fun x y => Scalar.lessOrEqual y x
  | .lessOrEqual => v.ordered rhs Scalar.lessOrEqual
  | .contains => v.holdsText rhs
  | .notContains => !v.holdsText rhs
  | .unknown => false

end FieldValue

namespace Condition

variable {α : Type}

/-- Whether a resource has the tag that a text `key=value` asks for. Without `=` the text is a key,
and any value will do. -/
def hasTagPair (r : Resource α) (pair : String) : Bool :=
  match Text.cutAt? '=' pair.toList with
  | some (key, value) =>
    r.tag? (String.ofList (Text.trimChars key)) == some (String.ofList (Text.trimChars value))
  | none => (r.tag? (Text.trim pair)).isSome

/-- The `tags` shortcut: a tag is there or it is not, and nothing else can be asked. -/
def tagPairHolds (r : Resource α) (comparison : Comparison) (pair : String) : Bool :=
  match comparison with
  | .equals => hasTagPair r pair
  | .notEquals => !hasTagPair r pair
  | _ => false

/-- Whether a condition holds of a resource. -/
def holds [Scalar α] (c : Condition) (r : Resource α) : Bool :=
  match c.field with
  | .tagPair => tagPairHolds r c.comparison c.value
  | field => (field.resolve r).compare c.comparison c.value

end Condition

/-! ## Documents -/

namespace Comparison

/-- The name of a comparison. -/
def name : Comparison → String
  | .equals => "equals"
  | .notEquals => "not-equals"
  | .greaterThan => "greater-than"
  | .lessThan => "less-than"
  | .greaterOrEqual => "greater-or-equal"
  | .lessOrEqual => "less-or-equal"
  | .contains => "contains"
  | .notContains => "not-contains"
  | .unknown => "unknown"

/-- The accepted names. -/
def names : List (String × Comparison) :=
  [("equals", .equals), ("not-equals", .notEquals), ("not_equals", .notEquals),
   ("greater-than", .greaterThan), ("greater_than", .greaterThan),
   ("less-than", .lessThan), ("less_than", .lessThan),
   ("greater-or-equal", .greaterOrEqual), ("greater_equal", .greaterOrEqual),
   ("greater_or_equal", .greaterOrEqual), ("less-or-equal", .lessOrEqual),
   ("less_equal", .lessOrEqual), ("less_or_equal", .lessOrEqual),
   ("contains", .contains), ("not-contains", .notContains), ("not_contains", .notContains)]

/-- The comparison of a name; every other name is unknown. -/
def ofName (name : String) : Comparison := (names.lookup name).getD .unknown

end Comparison

namespace Condition

/-- The document of a condition. -/
def toJson (c : Condition) : Json :=
  .obj [("field", .str c.field.text), ("operator", .str c.comparison.name), ("value", .str c.value)]

/-- Reads a condition. The field must be given; the value is lenient. -/
def read? (j : Json) : Option Condition := do
  guard (j.isRecord 3)
  let field ← j.required? 0 ["field"] Json.str?
  let comparison ← j.optional? 1 ["operator"] .unknown fun v => v.variant?.map Comparison.ofName
  let value ← j.optional? 2 ["value"] "" (Json.lenient? Json.lenientText)
  return { field := Field.parse field, comparison, value }

end Condition

end Chargeback
