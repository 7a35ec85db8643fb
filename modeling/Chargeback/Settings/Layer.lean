import Chargeback.Json.Record
import Chargeback.Settings.Path
import Chargeback.Text.LowerCase

/-!
# Layers of settings

Settings come in layers, and a later layer is laid on top of the earlier ones: an object is laid on
an object field by field, and any other value takes the place of what was there. An empty object
changes nothing. Names do not distinguish upper and lower case, and a name at the top of a layer
may be a path.
-/

namespace Chargeback.Setting

/-- The name of a field as it is kept. -/
def foldName (name : String) : String := String.ofList (Text.lower name.toList)

/-- The fields of an object; anything else has none. -/
def fieldsOf : Option Json → List (String × Json)
  | some (.obj fields) => fields
  | _ => []

/-- The items of an array; anything else has none. -/
def itemsOf : Option Json → List Json
  | some (.arr items) => items
  | _ => []

mutual

/-- What stands in a place when a value is laid on top of what stood there before. -/
def lay (old : Option Json) : Json → Json
  | .obj [] => old.getD (.obj [])
  | .obj (field :: rest) => .obj (layFields (fieldsOf old) (field :: rest))
  | value => value

/-- Fields, sorted by name, with other fields laid on top of them. -/
def layFields (base : List (String × Json)) : List (String × Json) → List (String × Json)
  | [] => base
  | (name, value) :: rest =>
    layFields (TextMap.alterEntries (foldName name) (fun old => lay old value) base) rest

end

/-- The item of an array that a position names. -/
def itemIndex (size : Nat) (position : Int) : Nat :=
  if position < 0 then size - position.natAbs else position.toNat

/-- Changes an item of an array, which is filled up with nothing as far as that item. -/
def alterItem (position : Int) (f : Json → Json) (items : List Json) : List Json :=
  let index := itemIndex items.length position
  (items ++ List.replicate (index + 1 - items.length) Json.null).modify index f

/-- Lays a value on top of what stands at the end of a path. On the way whatever is not the needed
object or array gives way to one. The item at the end of a path is replaced as a whole. -/
def layAt (value : Json) : List Step → Option Json → Json
  | [], old => lay old value
  | .field name :: rest, old =>
    .obj (TextMap.alterEntries (foldName name) (layAt value rest) (fieldsOf old))
  | [.item position], old => .arr (alterItem position (fun _ => value) (itemsOf old))
  | .item position :: rest, old =>
    .arr (alterItem position (fun item => layAt value rest (some item)) (itemsOf old))

/-- A layer: its names, each with a value. -/
abbrev Layer := List (String × Json)

/-- Lays a layer on top of the earlier ones. -/
def addLayer (settings : Json) (layer : Layer) : Json :=
  layer.foldl (fun settings entry => layAt entry.2 (readPath entry.1) (some settings)) settings

/-- All layers on top of one another. -/
def ofLayers (layers : List Layer) : Json := layers.foldl addLayer (.obj [])

end Chargeback.Setting
