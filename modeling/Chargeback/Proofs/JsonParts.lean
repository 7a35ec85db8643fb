import Mathlib.Data.List.Basic
import Chargeback.Json.Record

/-!
# Parts of a value

A part of a value is found by going into one slot after the other: into an item of an array, or into a
field of a record, which an object gives by name and an array by position. When a part is replaced by
another value, everything beside the way to it stays as it is.

A reader follows the replacement of a part if it reads the new value as it read the old one, with one
change. The readers of lists and of fields pass this on from the readers of their parts, so what a whole
document is read as follows from what is read at the end of the way.
-/

namespace Chargeback.Json

variable {ι : Type}

/-! ## Slots -/

/-- Where a value holds another one. -/
inductive Slot where
  /-- A field of a record. -/
  | field (position : Nat) (names : List String)
  /-- An item of an array. -/
  | item (index : Nat)

/-- A field of an object with its value altered, if it has one of some names. -/
def alterField (names : List String) (f : Json → Json) (e : String × Json) : String × Json :=
  if names.contains e.1 then (e.1, f e.2) else e

namespace Slot

/-- The value in a slot. -/
def get? : Slot → Json → Option Json
  | field position names, j => (j.slot? position names).join
  | item index, .arr items => items[index]?
  | item _, _ => none

/-- A value with the value in a slot altered. -/
def alter (f : Json → Json) : Slot → Json → Json
  | field position _, .arr items => .arr (items.modify position f)
  | field _ names, .obj fields => .obj (fields.map (alterField names f))
  | item index, .arr items => .arr (items.modify index f)
  | _, j => j

/-- Fields that are different ones, whether a record is an array or an object. -/
def Apart (position : Nat) (names : List String) (position' : Nat) (names' : List String) : Prop :=
  position ≠ position' ∧ ∀ name ∈ names, name ∉ names'

instance (position position' : Nat) (names names' : List String) :
    Decidable (Apart position names position' names') :=
  inferInstanceAs (Decidable (_ ∧ _))

end Slot

variable (f : Json → Json) {position : Nat} {names : List String}

theorem fst_alterField (names : List String) (e : String × Json) : (alterField names f e).1 = e.1 := by
  unfold alterField
  split <;> rfl

/-- Names select the same fields when values are altered. -/
theorem filter_map_alterField (names names' : List String) (fields : List (String × Json)) :
    ((fields.map (alterField names f)).filter fun e => names'.contains e.1) =
      (fields.filter fun e => names'.contains e.1).map (alterField names f) := by
  rw [List.filter_map]
  refine congrArg _ (List.filter_congr fun e _ => ?_)
  rw [Function.comp_apply, fst_alterField]

/-- What the fields of one name give. -/
def given? : List (String × Json) → Option (Option Json)
  | [] => some none
  | [e] => some (some e.2)
  | _ => none

theorem slot?_obj (position : Nat) (names : List String) (fields : List (String × Json)) :
    slot? position names (.obj fields) = given? (fields.filter fun e => names.contains e.1) :=
  rfl

theorem given?_map_alterField {fields : List (String × Json)}
    (h : ∀ e ∈ fields, names.contains e.1 = true) :
    given? (fields.map (alterField names f)) = (given? fields).map (Option.map f) := by
  rcases fields with _ | ⟨e, _ | ⟨e', rest⟩⟩
  · rfl
  · show some (some (alterField names f e).2) = some (some (f e.2))
    rw [alterField, if_pos (h e List.mem_cons_self)]
  · rfl

theorem slot?_alter (position : Nat) (names : List String) (j : Json) :
    slot? position names ((Slot.field position names).alter f j) =
      (slot? position names j).map (Option.map f) := by
  cases j with
  | arr items =>
    show some (items.modify position f)[position]? = some (items[position]?.map f)
    rw [List.getElem?_modify]
    simp only [if_true]
    rfl
  | obj fields =>
    rw [Slot.alter, slot?_obj, slot?_obj, filter_map_alterField]
    exact given?_map_alterField f fun e he => (List.mem_filter.mp he).2
  | _ => rfl

/-- Altering one field leaves the others as they are. -/
theorem slot?_alter_of_apart {position' : Nat} {names' : List String}
    (h : Slot.Apart position names position' names') (j : Json) :
    slot? position' names' ((Slot.field position names).alter f j) = slot? position' names' j := by
  obtain ⟨hposition, hnames⟩ := h
  cases j with
  | arr items =>
    show some (items.modify position f)[position']? = some items[position']?
    rw [List.getElem?_modify]
    simp only [hposition, if_false, Option.map_eq_map, Option.map_id']
  | obj fields =>
    have hsame : ∀ e ∈ fields.filter fun e => names'.contains e.1, alterField names f e = e := by
      intro e he
      have hname : e.1 ∈ names' := List.contains_iff_mem.mp (List.mem_filter.mp he).2
      have hother : e.1 ∉ names := fun hmem => hnames e.1 hmem hname
      rw [alterField, if_neg (mt List.contains_iff_mem.mp hother)]
    rw [Slot.alter, slot?_obj, slot?_obj, filter_map_alterField, List.map_congr_left hsame,
      List.map_id']
  | _ => rfl

theorem isRecord_alter (size : Nat) (j : Json) :
    ((Slot.field position names).alter f j).isRecord size = j.isRecord size := by
  cases j with
  | arr items =>
    rw [Slot.alter, isRecord, isRecord, List.length_modify]
  | _ => rfl

/-! ## Parts -/

/-- The part of a value at the end of a way. -/
def partAt? : List Slot → Json → Option Json
  | [], j => some j
  | s :: path, j => (s.get? j).bind (partAt? path)

/-- A value with the part at the end of a way replaced. -/
def replaceAt (new : Json) : List Slot → Json → Json
  | [], _ => new
  | s :: path, j => s.alter (replaceAt new path) j

@[simp]
theorem isRecord_replaceAt (new : Json) (path : List Slot) (size : Nat) (j : Json) :
    (replaceAt new (.field position names :: path) j).isRecord size = j.isRecord size :=
  isRecord_alter _ size j

/-- The way to a part goes through a field that is given. -/
theorem exists_of_partAt?_field {path : List Slot} {j : Json}
    (h : (partAt? (.field position names :: path) j).isSome = true) :
    ∃ value, slot? position names j = some (some value) ∧ (partAt? path value).isSome = true := by
  obtain ⟨part, hpart⟩ := Option.isSome_iff_exists.mp h
  obtain ⟨value, hvalue, hrest⟩ := Option.bind_eq_some_iff.mp hpart
  exact ⟨value, Option.join_eq_some_iff.mp hvalue, Option.isSome_of_mem hrest⟩

/-- The way to a part goes through an item that is there. -/
theorem exists_of_partAt?_item {path : List Slot} {items : List Json} {i : Nat}
    (h : (partAt? (.item i :: path) (.arr items)).isSome = true) :
    ∃ item, items[i]? = some item ∧ (partAt? path item).isSome = true := by
  obtain ⟨part, hpart⟩ := Option.isSome_iff_exists.mp h
  obtain ⟨item, hitem, hrest⟩ := Option.bind_eq_some_iff.mp hpart
  exact ⟨item, hitem, Option.isSome_of_mem hrest⟩

/-! ## Readers -/

/-- The reader of a value reads it with one change when one of its parts is replaced. -/
def Follows (read : Json → Option ι) (path : List Slot) (new : Json) (change : ι → ι) : Prop :=
  ∀ j x, read j = some x → (partAt? path j).isSome = true →
    read (replaceAt new path j) = some (change x)

/-- The whole value is replaced by one that is read. -/
theorem follows_nil {read : Json → Option ι} {new : Json} {y : ι} (h : read new = some y) :
    Follows read [] new fun _ => y :=
  fun _ _ _ _ => h

theorem mapM_modify {read : Json → Option ι} {items : List Json} {l : List ι}
    (h : items.mapM read = some l) {i : Nat} {change : ι → ι}
    (hitem : ∀ item x, items[i]? = some item → read item = some x →
      read (f item) = some (change x)) :
    (items.modify i f).mapM read = some (l.modify i change) := by
  induction items generalizing l i with
  | nil =>
    obtain rfl : [] = l := Option.some.inj h
    rw [List.modify_nil, List.modify_nil]
    rfl
  | cons first rest ih =>
    simp only [List.mapM_cons, Option.bind_eq_bind, Option.bind_eq_some_iff, Option.pure_def,
      Option.some.injEq] at h
    obtain ⟨x, hx, xs, hxs, rfl⟩ := h
    cases i with
    | zero =>
      rw [List.modify_zero_cons, List.modify_zero_cons, List.mapM_cons, hitem first x rfl hx, hxs]
      rfl
    | succ i =>
      rw [List.modify_succ_cons, List.modify_succ_cons, List.mapM_cons, hx, ih hxs hitem]
      rfl

section Follows

variable {read : Json → Option ι} {path : List Slot} {new : Json} {change : ι → ι}

/-- A list is read with one item changed. -/
theorem Follows.item (h : Follows read path new change) (i : Nat) :
    Follows (list? read) (.item i :: path) new fun l => l.modify i change := by
  intro j l hread hpart
  cases j with
  | arr items =>
    obtain ⟨item, hitem, hrest⟩ := exists_of_partAt?_item hpart
    refine mapM_modify _ hread fun item' x hitem' hx => ?_
    obtain rfl : item = item' := Option.some.inj (hitem.symm.trans hitem')
    exact h item x hx hrest
  | _ => cases hread

variable {j : Json}

/-- The field on the way is read with the change. -/
theorem Follows.optional (h : Follows read path new change) {default x : ι}
    (hread : optional? j position names default read = some x)
    (hpart : (partAt? (.field position names :: path) j).isSome = true) :
    optional? (replaceAt new (.field position names :: path) j) position names default read =
      some (change x) := by
  obtain ⟨value, hslot, hrest⟩ := exists_of_partAt?_field hpart
  rw [optional?, hslot] at hread
  rw [optional?, replaceAt, slot?_alter, hslot]
  exact h value x hread hrest

variable {κ : Type} {position' : Nat} {names' : List String}

/-- The other fields are read as before. -/
@[simp]
theorem optional?_replaceAt (h : Slot.Apart position names position' names') (default : κ)
    (read : Json → Option κ) :
    optional? (replaceAt new (.field position names :: path) j) position' names' default read =
      optional? j position' names' default read := by
  rw [optional?, optional?, replaceAt, slot?_alter_of_apart _ h]

@[simp]
theorem required?_replaceAt (h : Slot.Apart position names position' names')
    (read : Json → Option κ) :
    required? (replaceAt new (.field position names :: path) j) position' names' read =
      required? j position' names' read := by
  rw [required?, required?, replaceAt, slot?_alter_of_apart _ h]

end Follows

end Chargeback.Json
