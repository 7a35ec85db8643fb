import Mathlib.Data.List.Forall2
import Chargeback.Json.Record
import Chargeback.Proofs.JsonText

/-!
# Reading records and lists

A list is read item by item and a record field by field, so what has been read from either has been read
from its parts, or is a default. The values of an object may be seen through a function, such as the cut
that a text makes where a value is too deep: a name still selects the same field, and the reader of the
field gets the value as it is seen.
-/

namespace Chargeback

open Json

/-! ## Lists -/

section List

variable {ι κ : Type}

theorem isSome_mapM (f : ι → Option κ) (l : List ι) :
    (l.mapM f).isSome = l.all fun x => (f x).isSome := by
  induction l with
  | nil => rfl
  | cons x l ih =>
    rw [List.mapM_cons, List.all_cons, ← ih]
    cases f x with
    | none => rfl
    | some y =>
      cases l.mapM f with
      | none => rfl
      | some ys => rfl

theorem exists_of_mem_mapM {f : ι → Option κ} {l : List ι} {result : List κ}
    (h : l.mapM f = some result) {y : κ} (hy : y ∈ result) : ∃ x ∈ l, f x = some y := by
  induction l generalizing result with
  | nil =>
    cases h
    cases hy
  | cons x l ih =>
    simp only [List.mapM_cons, Option.bind_eq_bind, Option.bind_eq_some_iff, Option.pure_def,
      Option.some.injEq] at h
    obtain ⟨z, hz, rest, hrest, rfl⟩ := h
    rcases List.mem_cons.mp hy with rfl | hy
    · exact ⟨x, List.mem_cons_self, hz⟩
    · obtain ⟨x', hx', hread⟩ := ih hrest hy
      exact ⟨x', List.mem_cons_of_mem x hx', hread⟩

/-- What reads more reads the same list. -/
theorem mapM_mono {f g : ι → Option κ} {l : List ι} {result : List κ} (h : l.mapM f = some result)
    (hmore : ∀ x ∈ l, ∀ y, f x = some y → g x = some y) : l.mapM g = some result := by
  induction l generalizing result with
  | nil => exact h
  | cons x l ih =>
    simp only [List.mapM_cons, Option.bind_eq_bind, Option.bind_eq_some_iff, Option.pure_def,
      Option.some.injEq] at h
    obtain ⟨y, hy, rest, hrest, rfl⟩ := h
    obtain ⟨hfirst, hothers⟩ := List.forall_mem_cons.mp hmore
    rw [List.mapM_cons, hfirst y hy, ih hrest hothers]
    rfl

/-- Whatever a list of values is read as has been read from one of them. -/
theorem exists_of_mem_list? {read : Json → Option ι} {j : Json} {l : List ι}
    (h : list? read j = some l) {x : ι} (hx : x ∈ l) :
    ∃ items, j = .arr items ∧ ∃ item ∈ items, read item = some x := by
  cases j with
  | arr items => exact ⟨items, rfl, exists_of_mem_mapM h hx⟩
  | _ => cases h

/-- If the documents of items are read as others, one by one, so is the list of the documents. -/
theorem list?_of_forall₂ {read : Json → Option κ} {toJson : ι → Json} {l : List ι} {result : List κ}
    (h : List.Forall₂ (fun y x => read (toJson x) = some y) result l) :
    list? read (ofList toJson l) = some result := by
  rw [ofList, list?]
  induction h with
  | nil => rfl
  | cons hfirst _ ih =>
    rw [List.map_cons, List.mapM_cons, hfirst, ih]
    rfl

theorem list?_ofList {read : Json → Option ι} {toJson : ι → Json} {l : List ι}
    (h : ∀ x ∈ l, read (toJson x) = some x) : list? read (ofList toJson l) = some l :=
  list?_of_forall₂ (List.forall₂_same.mpr h)

end List

/-! ## Fields of an object -/

theorem filter_contains_of_not_mem {fields : List (String × Json)} {name : String}
    (h : name ∉ fields.map Prod.fst) : (fields.filter fun f => [name].contains f.1) = [] := by
  rw [List.filter_eq_nil_iff]
  intro f hf heq
  rw [List.contains_iff_mem, List.mem_singleton] at heq
  exact h (heq ▸ List.mem_map_of_mem hf)

/-- If the names of fields differ, one name selects one field. -/
theorem filter_contains_of_mem {fields : List (String × Json)}
    (hnames : (fields.map Prod.fst).Nodup) {f : String × Json} (hf : f ∈ fields) :
    (fields.filter fun g => [f.1].contains g.1) = [f] := by
  induction fields with
  | nil => cases hf
  | cons g fields ih =>
    obtain ⟨hfirst, hothers⟩ := List.nodup_cons.mp hnames
    rcases List.mem_cons.mp hf with rfl | hf
    · rw [List.filter_cons_of_pos (by simp), filter_contains_of_not_mem hfirst]
    · have hne : g.1 ≠ f.1 := fun heq => hfirst (heq ▸ List.mem_map_of_mem hf)
      rw [List.filter_cons_of_neg (by simpa using hne), ih hothers hf]

/-- An object whose values are seen through a function. -/
def seenThrough (view : Json → Json) (fields : List (String × Json)) : Json :=
  .obj (fields.map fun f => (f.1, view f.2))

theorem seenThrough_self (fields : List (String × Json)) :
    seenThrough (fun j => j) fields = .obj fields := by
  simp [seenThrough]

theorem reread_obj (limit : Nat) (fields : List (String × Json)) :
    reread (limit + 1) (.obj fields) = seenThrough (reread limit) fields := by
  rw [reread, if_neg (Nat.succ_ne_zero limit), rereadFields_eq_map, Nat.add_sub_cancel, seenThrough]

section Object

variable {fields : List (String × Json)} {name : String} {value : Json} {ι : Type}
  {read : Json → Option ι} (view : Json → Json) (position : Nat)

theorem slot?_seenThrough (result : List (String × Json))
    (h : (fields.filter fun f => [name].contains f.1) = result) :
    slot? position [name] (seenThrough view fields) =
      match result with
      | [] => some none
      | [f] => some (some (view f.2))
      | _ => none := by
  rw [seenThrough, slot?, List.filter_map]
  simp only [Function.comp_def, h]
  rcases result with _ | ⟨f, _ | ⟨g, rest⟩⟩
  · rfl
  · rfl
  · rfl

/-- A field that must be given is found by its name and read. -/
theorem required?_seenThrough (hnames : (fields.map Prod.fst).Nodup) (h : (name, value) ∈ fields) :
    required? (seenThrough view fields) position [name] read = read (view value) := by
  rw [required?, slot?_seenThrough view position _ (filter_contains_of_mem hnames h)]

/-- A field that may be missing is found by its name and read. -/
theorem optional?_seenThrough (hnames : (fields.map Prod.fst).Nodup) (h : (name, value) ∈ fields)
    (default : ι) :
    optional? (seenThrough view fields) position [name] default read = read (view value) := by
  rw [optional?, slot?_seenThrough view position _ (filter_contains_of_mem hnames h)]

/-- A field that is missing takes its default. -/
theorem optional?_seenThrough_of_not_mem (h : name ∉ fields.map Prod.fst) (default : ι) :
    optional? (seenThrough view fields) position [name] default read = some default := by
  rw [optional?, slot?_seenThrough view position _ (filter_contains_of_not_mem h)]

/-- A field that is left out for nothing is read back. -/
theorem optional?_optionalField {κ : Type} {toJson : κ → Json} {read : Json → Option (Option κ)}
    {value : Option κ} (hnames : (fields.map Prod.fst).Nodup)
    (hsome : ∀ x, value = some x → (name, toJson x) ∈ fields)
    (hnone : value = none → name ∉ fields.map Prod.fst)
    (hread : ∀ x, value = some x → read (view (toJson x)) = some (some x)) :
    optional? (seenThrough view fields) position [name] none read = some value := by
  cases value with
  | none => exact optional?_seenThrough_of_not_mem view position (hnone rfl) none
  | some x =>
    rw [optional?_seenThrough view position hnames (hsome x rfl)]
    exact hread x rfl

end Object

/-- What holds of the documents of all values holds of those in a field that may be left out. -/
theorem of_mem_optionalField {ι : Type} {name : String} {toJson : ι → Json} {value : Option ι}
    {P : Json → Prop} (h : ∀ x, P (toJson x)) : ∀ f ∈ optionalField name toJson value, P f.2 := by
  cases value with
  | none => simp [optionalField]
  | some x => simp [optionalField, h x]

/-! ## What has been read -/

theorem optional?_eq_some {ι : Type} {j : Json} {position : Nat} {names : List String} {default x : ι}
    {read : Json → Option ι} (h : optional? j position names default read = some x) :
    x = default ∨ ∃ value, slot? position names j = some (some value) ∧ read value = some x := by
  rw [optional?] at h
  split at h
  · rename_i value hslot
    exact .inr ⟨value, hslot, h⟩
  · exact .inl (Option.some.inj h).symm
  · cases h

theorem natBelow?_lt {limit n : Nat} {j : Json} (h : natBelow? limit j = some n) : n < limit := by
  cases j with
  | int m =>
    rw [natBelow?] at h
    split at h
    · cases h
      omega
    · cases h
  | _ => cases h

theorem natBelow?_ofNat {n limit : Nat} (h : n < limit) : natBelow? limit (ofNat n) = some n := by
  simp [ofNat, natBelow?, h]

/-- The value of a field is an item or the value of a name. -/
theorem Json.mem_of_slot? {j value : Json} {position : Nat} {names : List String}
    (h : slot? position names j = some (some value)) :
    (∃ items, j = .arr items ∧ value ∈ items) ∨
      ∃ fields f, j = .obj fields ∧ f ∈ fields ∧ f.2 = value := by
  cases j with
  | arr items =>
    rw [slot?, Option.some.injEq] at h
    exact .inl ⟨items, rfl, List.mem_of_getElem? h⟩
  | obj fields =>
    rw [slot?] at h
    split at h
    · cases h
    · rename_i f hf
      cases h
      exact .inr ⟨fields, f, rfl, List.mem_of_mem_filter (hf ▸ List.mem_singleton_self f), rfl⟩
    · cases h
  | _ => cases h

theorem Json.areUsable_iff {items : List Json} :
    areUsable items = true ↔ ∀ j ∈ items, j.isUsable = true := by
  induction items with
  | nil => simp [areUsable]
  | cons j rest ih => rw [areUsable, Bool.and_eq_true, ih, List.forall_mem_cons]

theorem Json.areUsableFields_iff {fields : List (String × Json)} :
    areUsableFields fields = true ↔ ∀ f ∈ fields, f.2.isUsable = true := by
  induction fields with
  | nil => simp [areUsableFields]
  | cons f rest ih => rw [areUsableFields, Bool.and_eq_true, ih, List.forall_mem_cons]

/-- A lenient field takes every value that can be written. -/
theorem Json.Printable.isUsable {j : Json} (hj : Printable j) : j.isUsable = true := by
  induction hj with
  | arr parts ih => exact areUsable_iff.mpr ih
  | obj parts ih => exact areUsableFields_iff.mpr ih
  | _ => rfl

end Chargeback
