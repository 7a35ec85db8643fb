import Mathlib.Data.List.Basic

/-!
# Edits of a list

A list is changed at one place: an item is replaced, put in or deleted. It is cut in three there, and what
stands in the middle, one item at most, is exchanged for one item or none. All laws of edits are laws of
lists that have been put together from three parts: the items around the place stay as they are and keep
their order, and whoever passes over the items in the middle sees no change.
-/

namespace Chargeback

variable {ι κ : Type}

/-- A change of a list at one place. -/
inductive ListEdit (ι : Type) where
  | replace (place : Nat) (item : ι)
  /-- In front of the item at the place, or behind the last one. -/
  | insert (place : Nat) (item : ι)
  | delete (place : Nat)

namespace ListEdit

/-- Where a list is changed. -/
def place : ListEdit ι → Nat
  | replace place _ => place
  | insert place _ => place
  | delete place => place

/-- How many items are taken out. -/
def removed : ListEdit ι → Nat
  | replace _ _ => 1
  | insert _ _ => 0
  | delete _ => 1

/-- The items that are put in. -/
def added : ListEdit ι → List ι
  | replace _ item => [item]
  | insert _ item => [item]
  | delete _ => []

/-- The list behind a change. -/
def apply (l : List ι) : ListEdit ι → List ι
  | replace place item => l.set place item
  | insert place item => l.insertIdx place item
  | delete place => l.eraseIdx place

/-- A list has the items that are taken out. -/
def IsWithin (e : ListEdit ι) (l : List ι) : Prop := e.place + e.removed ≤ l.length

/-- The items that are put in or taken out. -/
def touched (e : ListEdit ι) (l : List ι) : List ι := e.added ++ (l.drop e.place).take e.removed

/-- The item at a place is not taken out. -/
def Spares (e : ListEdit ι) (j : Nat) : Prop := j < e.place ∨ e.place + e.removed ≤ j

/-- Where an item stands behind a change. -/
def moved (e : ListEdit ι) (j : Nat) : Nat :=
  if j < e.place then j else j - e.removed + e.added.length

/-- The change of a list of images that stands behind others. -/
def within (front : Nat) (f : ι → κ) : ListEdit ι → ListEdit κ
  | replace place item => replace (front + place) (f item)
  | insert place item => insert (front + place) (f item)
  | delete place => delete (front + place)

theorem place_within (front : Nat) (f : ι → κ) (e : ListEdit ι) :
    (e.within front f).place = front + e.place := by
  cases e <;> rfl

theorem removed_within (front : Nat) (f : ι → κ) (e : ListEdit ι) :
    (e.within front f).removed = e.removed := by
  cases e <;> rfl

theorem added_within (front : Nat) (f : ι → κ) (e : ListEdit ι) :
    (e.within front f).added = e.added.map f := by
  cases e <;> rfl

theorem insertIdx_length_append (a b : List ι) (x : ι) :
    (a ++ b).insertIdx a.length x = a ++ x :: b := by
  induction a with
  | nil => exact List.insertIdx_zero
  | cons y rest ih =>
    rw [List.cons_append, List.length_cons, List.insertIdx_succ_cons, ih]
    rfl

/-- A list is cut at the place of a change. -/
theorem exists_parts {e : ListEdit ι} {l : List ι} (h : e.IsWithin l) :
    ∃ front middle back, l = front ++ middle ++ back ∧ front.length = e.place ∧
      middle.length = e.removed := by
  unfold IsWithin at h
  refine ⟨l.take e.place, (l.drop e.place).take e.removed, (l.drop e.place).drop e.removed, ?_, ?_, ?_⟩
  · rw [List.append_assoc, List.take_append_drop, List.take_append_drop]
  · rw [List.length_take]
    omega
  · rw [List.length_take, List.length_drop]
    omega

section Parts

variable {front middle back : List ι} {e : ListEdit ι} (hfront : front.length = e.place)
  (hmiddle : middle.length = e.removed)
include hfront hmiddle

/-- A change exchanges the part in the middle. -/
theorem apply_parts : e.apply (front ++ middle ++ back) = front ++ e.added ++ back := by
  cases e with
  | replace place x =>
    obtain ⟨y, rfl⟩ := List.length_eq_one_iff.mp hmiddle
    obtain rfl : front.length = place := hfront
    simp [apply, added]
  | insert place x =>
    obtain rfl := List.length_eq_zero_iff.mp hmiddle
    obtain rfl : front.length = place := hfront
    rw [List.append_nil, apply, insertIdx_length_append, added, List.append_cons]
  | delete place =>
    obtain ⟨y, rfl⟩ := List.length_eq_one_iff.mp hmiddle
    obtain rfl : front.length = place := hfront
    rw [apply, added, List.append_nil, List.append_assoc,
      List.eraseIdx_append_of_length_le (Nat.le_refl _), Nat.sub_self]
    rfl

theorem touched_parts : e.touched (front ++ middle ++ back) = e.added ++ middle := by
  rw [touched, ← hfront, ← hmiddle, List.append_assoc, List.drop_left, List.take_left]

end Parts

/-- An item that is not taken out stands where it is moved to. -/
theorem getElem?_apply {e : ListEdit ι} {l : List ι} (h : e.IsWithin l) {j : Nat}
    (hj : e.Spares j) : (e.apply l)[e.moved j]? = l[j]? := by
  obtain ⟨front, middle, back, rfl, hfront, hmiddle⟩ := exists_parts h
  rw [apply_parts hfront hmiddle, moved, List.append_assoc, List.append_assoc]
  rcases hj with hj | hj
  · rw [if_pos hj, List.getElem?_append_left (by omega), List.getElem?_append_left (by omega)]
  · rw [if_neg (by omega), List.getElem?_append_right (by omega),
      List.getElem?_append_right (by omega), List.getElem?_append_right (by omega),
      List.getElem?_append_right (by omega)]
    congr 1
    omega

theorem length_apply {e : ListEdit ι} {l : List ι} (h : e.IsWithin l) :
    (e.apply l).length + e.removed = l.length + e.added.length := by
  obtain ⟨front, middle, back, rfl, hfront, hmiddle⟩ := exists_parts h
  rw [apply_parts hfront hmiddle]
  simp only [List.length_append]
  omega

/-- The items that are not taken out keep their order. -/
theorem moved_lt_moved {e : ListEdit ι} {j k : Nat} (hj : e.Spares j) (hk : e.Spares k)
    (hjk : j < k) : e.moved j < e.moved k := by
  unfold Spares at hj hk
  unfold moved
  split <;> split <;> omega

/-- A change of one part of a list is a change of the list. -/
theorem within_apply {e : ListEdit ι} {l : List ι} (h : e.IsWithin l) (front back : List κ)
    (f : ι → κ) : (e.within front.length f).apply (front ++ l.map f ++ back) =
      front ++ (e.apply l).map f ++ back := by
  obtain ⟨a, b, c, rfl, ha, hb⟩ := exists_parts h
  have hparts : front ++ (a ++ b ++ c).map f ++ back =
      (front ++ a.map f) ++ b.map f ++ (c.map f ++ back) := by
    simp only [List.map_append, List.append_assoc]
  rw [hparts, apply_parts, apply_parts ha hb, added_within]
  · simp only [List.map_append, List.append_assoc]
  · rw [List.length_append, List.length_map, place_within, ha]
  · rw [List.length_map, removed_within, hb]

theorem isWithin_within {e : ListEdit ι} {l : List ι} (h : e.IsWithin l) (front back : List κ)
    (f : ι → κ) : (e.within front.length f).IsWithin (front ++ l.map f ++ back) := by
  unfold IsWithin at h ⊢
  rw [place_within, removed_within, List.length_append, List.length_append, List.length_map]
  omega

/-- Of items that a test passes over, nothing is seen when they are put in or taken out. -/
theorem filter_apply {e : ListEdit ι} {l : List ι} (h : e.IsWithin l) {test : ι → Bool}
    (htouched : ∀ x ∈ e.touched l, test x = false) : (e.apply l).filter test = l.filter test := by
  obtain ⟨front, middle, back, rfl, hfront, hmiddle⟩ := exists_parts h
  rw [touched_parts hfront hmiddle, List.forall_mem_append] at htouched
  obtain ⟨hadded, hremoved⟩ := htouched
  have hnone {part : List ι} (hpart : ∀ x ∈ part, test x = false) : part.filter test = [] :=
    List.filter_eq_nil_iff.mpr fun x hx => by rw [hpart x hx]; exact Bool.false_ne_true
  rw [apply_parts hfront hmiddle]
  simp only [List.filter_append, hnone hadded, hnone hremoved]

end ListEdit

/-! ## Items that a test passes over -/

section Filter

variable {l : List ι} {test : ι → Bool} {x : ι}

theorem filter_append_of_neg (hx : test x = false) : (l ++ [x]).filter test = l.filter test := by
  rw [List.filter_append, List.filter_singleton, hx]
  exact List.append_nil _

theorem filter_insertIdx_of_neg (hx : test x = false) (l : List ι) (k : Nat) :
    (l.insertIdx k x).filter test = l.filter test := by
  by_cases hk : k ≤ l.length
  · exact ListEdit.filter_apply (e := .insert k x) hk (List.forall_mem_singleton.mpr hx)
  · rw [List.insertIdx_of_length_lt (Nat.lt_of_not_le hk)]

theorem filter_set_of_neg (i : Fin l.length) (hi : test (l.get i) = false) (hx : test x = false) :
    (l.set i x).filter test = l.filter test := by
  refine ListEdit.filter_apply (e := .replace i x) i.isLt ?_
  rw [ListEdit.touched, ListEdit.place, ListEdit.removed, List.drop_eq_getElem_cons i.isLt]
  exact List.forall_mem_cons.mpr ⟨hx, List.forall_mem_singleton.mpr hi⟩

theorem filter_eraseIdx_of_neg (i : Fin l.length) (hi : test (l.get i) = false) :
    (l.eraseIdx i).filter test = l.filter test := by
  refine ListEdit.filter_apply (e := .delete i) i.isLt ?_
  rw [ListEdit.touched, ListEdit.place, ListEdit.removed, List.drop_eq_getElem_cons i.isLt]
  exact List.forall_mem_singleton.mpr hi

end Filter

end Chargeback
