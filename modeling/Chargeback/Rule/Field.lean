import Chargeback.Resource

/-!
# Fields

How a rule says which value of a resource it looks at: an attribute by one of its spellings, a tag
by `tag.` and its key, or the `tags` shortcut, whose key stands in the value of the condition. The
text of a field reads back as the same field.
-/

namespace Chargeback

/-- What a condition looks at. -/
inductive Field where
  /-- An attribute that every resource has. -/
  | ofAttribute (a : Attribute)
  /-- The tag with a key. -/
  | tag (key : String)
  /-- The tag whose key stands in the value of the condition. -/
  | tagPair
  /-- Nothing that a resource has. -/
  | unknown (name : String)
deriving DecidableEq, Repr

namespace Field

/-- The key behind the first point, if the text in front of it announces a tag. -/
def tagKey? (s : List Char) : Option String :=
  match Text.cutAt? '.' s with
  | some (before, key) =>
    let announces := Text.sameLetters (String.ofList before) "tag" ||
      Text.sameLetters (String.ofList before) "tags"
    if announces ∧ key ≠ [] then some (String.ofList key) else none
  | none => none

/-- The field that a text names, blanks around it aside. -/
def parse (raw : String) : Field :=
  let name := Text.trim raw
  if Text.sameLetters name "tags" then .tagPair
  else match tagKey? name.toList with
    | some key => .tag key
    | none => match Attribute.parse? name with
      | some a => .ofAttribute a
      | none => .unknown name

/-- The text of a field. -/
def text : Field → String
  | .ofAttribute a => a.column
  | .tag key => "tag." ++ key
  | .tagPair => "tags"
  | .unknown name => name

variable {α : Type}

/-- The value of a field of a resource. The `tags` shortcut by itself has none. -/
def resolve (r : Resource α) : Field → FieldValue α
  | .ofAttribute a => r.get a
  | .tag key => match r.tag? key with
    | some value => .text value
    | none => .absent
  | .tagPair => .absent
  | .unknown _ => .absent

end Field

end Chargeback
