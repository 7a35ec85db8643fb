import Mathlib.Order.Lattice
import Mathlib.Tactic.ByContra
import Chargeback.Sorting

/-!
# Stable sorting puts items in order

A relation "belongs before" that has the shape of comparing keys sorts a list by those keys, and
items with equal keys stay in the order that they had. Both facts are one: if the items of a list
follow one another in some order, then the sorted list is ordered by the relation first and by that
order second. A sort by keys of items also sorts what the items stand for. Of a list, a sort by keys
depends only on the items of each key, in their order.
-/

namespace Chargeback.Sorting

variable {α β : Type} {before : α → α → Bool} {tie : α → α → Prop}

/-- A relation compares items as if by keys: not both ways, and an item between which and two others
it does not decide does not lie between them. -/
structure IsWeakOrder (before : α → α → Bool) : Prop where
  asymm : ∀ {a b}, before a b = true → before b a = false
  between : ∀ {a c} b, before a c = true → before a b = true ∨ before b c = true

theorem IsWeakOrder.of_key {κ : Type} [LinearOrder κ] (key : α → κ) :
    IsWeakOrder fun a b => decide (key a < key b) where
  asymm h := by
    rw [decide_eq_true_eq] at h
    exact decide_eq_false h.not_gt
  between b h := by
    rw [decide_eq_true_eq] at h
    rcases lt_or_ge (key _) (key b) with hb | hb
    · exact Or.inl (decide_eq_true hb)
    · exact Or.inr (decide_eq_true (hb.trans_lt h))

/-- An item stands before another one: the relation says so, or it does not decide and the items came
in this order. -/
def Precedes (before : α → α → Bool) (tie : α → α → Prop) (a b : α) : Prop :=
  before a b = true ∨ before b a = false ∧ tie a b

theorem Precedes.not_before (h : IsWeakOrder before) {a b : α} (hab : Precedes before tie a b) :
    before b a = false := by
  rcases hab with hab | ⟨hab, -⟩
  · exact h.asymm hab
  · exact hab

theorem mem_insertBackwards {x a : α} {l : List α} :
    a ∈ insertBackwards before x l ↔ a = x ∨ a ∈ l := by
  rw [(insertBackwards_perm before x l).mem_iff, List.mem_cons]

/-- A list that is in order from the end to the front stays so when an item that came later than
all of it is put in. -/
theorem pairwise_insertBackwards (h : IsWeakOrder before) {x : α} {l : List α}
    (hl : l.Pairwise fun b a => Precedes before tie a b) (hx : ∀ a ∈ l, tie a x) :
    (insertBackwards before x l).Pairwise fun b a => Precedes before tie a b := by
  induction l with
  | nil => simp [insertBackwards]
  | cons y rest ih =>
    obtain ⟨hy, hrest⟩ := List.pairwise_cons.mp hl
    rw [insertBackwards]
    split
    · rename_i hxy
      refine List.pairwise_cons.mpr ⟨fun a ha => ?_, ih hrest fun a ha => hx a (.tail y ha)⟩
      rcases mem_insertBackwards.mp ha with rfl | ha
      · exact Or.inl hxy
      · exact hy a ha
    · rename_i hxy
      rw [Bool.not_eq_true] at hxy
      refine List.pairwise_cons.mpr ⟨fun a ha => Or.inr ⟨?_, hx a ha⟩, hl⟩
      rcases List.mem_cons.mp ha with rfl | ha
      · exact hxy
      -- An item in front of `y` that `x` belongs before would put `x` before `y` too.
      · by_contra hxa
        rw [Bool.not_eq_false] at hxa
        have hya := (hy a ha).not_before h
        rcases h.between y hxa with hb | hb
        · rw [hb] at hxy; cases hxy
        · rw [hb] at hya; cases hya

theorem pairwise_sortOnto (h : IsWeakOrder before) {sorted l : List α}
    (hs : sorted.Pairwise fun b a => Precedes before tie a b) (hl : l.Pairwise tie)
    (hsl : ∀ a ∈ sorted, ∀ x ∈ l, tie a x) :
    (sortOnto before sorted l).Pairwise fun b a => Precedes before tie a b := by
  induction l generalizing sorted with
  | nil => exact hs
  | cons x rest ih =>
    obtain ⟨hx, hrest⟩ := List.pairwise_cons.mp hl
    refine ih (pairwise_insertBackwards h hs fun a ha => hsl a ha x (.head rest)) hrest ?_
    intro a ha z hz
    rcases mem_insertBackwards.mp ha with rfl | ha
    · exact hx z hz
    · exact hsl a ha z (.tail x hz)

/-- Sorting orders a list by the relation, and by the order of the list where that does not
decide. -/
theorem pairwise_stableSort (h : IsWeakOrder before) {l : List α} (hl : l.Pairwise tie) :
    (stableSort before l).Pairwise (Precedes before tie) := by
  unfold stableSort
  rw [List.pairwise_reverse]
  exact pairwise_sortOnto h .nil hl (by simp)

/-! ## Items that stand for others -/

theorem insertBackwards_map (f : β → α) (x : β) (l : List β) :
    insertBackwards before (f x) (l.map f) =
      (insertBackwards (fun a b => before (f a) (f b)) x l).map f := by
  induction l with
  | nil => rfl
  | cons y rest ih =>
    rw [List.map_cons, insertBackwards, insertBackwards]
    split
    · rw [List.map_cons, ih]
    · rfl

theorem sortOnto_map (f : β → α) (sorted l : List β) :
    sortOnto before (sorted.map f) (l.map f) =
      (sortOnto (fun a b => before (f a) (f b)) sorted l).map f := by
  induction l generalizing sorted with
  | nil => rfl
  | cons x rest ih =>
    rw [List.map_cons, sortOnto, sortOnto, insertBackwards_map, ih]

theorem stableSort_map (f : β → α) (l : List β) :
    stableSort before (l.map f) = (stableSort (fun a b => before (f a) (f b)) l).map f := by
  have h : sortOnto before [] (l.map f) = _ := sortOnto_map f [] l
  rw [stableSort, h, stableSort, List.map_reverse]

/-! ## Items of one key -/

section Classes

variable {test : α → Bool}

theorem filter_insertBackwards_of_neg {x : α} (hx : ¬ test x = true) (l : List α) :
    (insertBackwards before x l).filter test = l.filter test := by
  induction l with
  | nil => simp [insertBackwards, hx]
  | cons y rest ih =>
    rw [insertBackwards]
    split
    · rw [List.filter_cons, List.filter_cons, ih]
    · rw [List.filter_cons_of_neg hx]

variable (htest : ∀ a b, test a = true → test b = true → before a b = false)
include htest

theorem filter_insertBackwards_of_pos {x : α} (hx : test x = true) (l : List α) :
    (insertBackwards before x l).filter test = x :: l.filter test := by
  induction l with
  | nil => simp [insertBackwards, hx]
  | cons y rest ih =>
    rw [insertBackwards]
    by_cases hxy : before x y = true
    · have hy : ¬ test y = true := by
        intro hy
        rw [htest x y hx hy] at hxy
        cases hxy
      rw [if_pos hxy, List.filter_cons_of_neg hy, ih, List.filter_cons_of_neg hy]
    · rw [if_neg hxy, List.filter_cons_of_pos hx]

theorem filter_sortOnto (sorted l : List α) :
    (sortOnto before sorted l).filter test = (l.filter test).reverse ++ sorted.filter test := by
  induction l generalizing sorted with
  | nil => rfl
  | cons x rest ih =>
    rw [sortOnto, ih]
    by_cases hx : test x = true
    · rw [filter_insertBackwards_of_pos htest hx, List.filter_cons_of_pos hx, List.reverse_cons,
        List.append_assoc]
      rfl
    · rw [filter_insertBackwards_of_neg hx, List.filter_cons_of_neg hx]

/-- Items among which the relation does not decide keep their order. -/
theorem filter_stableSort (l : List α) : (stableSort before l).filter test = l.filter test := by
  unfold stableSort
  rw [List.filter_reverse, filter_sortOnto htest, List.filter_nil, List.append_nil,
    List.reverse_reverse]

end Classes

section Keys

variable {κ : Type} [LinearOrder κ] {key : α → κ} {l l' : List α}

theorem mem_of_filter_key_eq
    (h : ∀ k, (l.filter fun a => decide (key a = k)) = l'.filter fun a => decide (key a = k))
    {a : α} (ha : a ∈ l) : a ∈ l' := by
  have hmem : a ∈ l.filter fun b => decide (key b = key a) :=
    List.mem_filter.mpr ⟨ha, decide_eq_true rfl⟩
  rw [h] at hmem
  exact (List.mem_filter.mp hmem).1

/-- A list that is in the order of its keys is made up of the items of each key. -/
theorem eq_of_filter_key_eq
    (hl : l.Pairwise fun a b => key a ≤ key b) (hl' : l'.Pairwise fun a b => key a ≤ key b)
    (h : ∀ k, (l.filter fun a => decide (key a = k)) = l'.filter fun a => decide (key a = k)) :
    l = l' := by
  induction l generalizing l' with
  | nil =>
    symm
    rw [List.eq_nil_iff_forall_not_mem]
    intro a ha
    exact absurd (mem_of_filter_key_eq (fun k => (h k).symm) ha) List.not_mem_nil
  | cons a rest ih =>
    cases l' with
    | nil => exact absurd (mem_of_filter_key_eq h List.mem_cons_self) List.not_mem_nil
    | cons b rest' =>
      obtain ⟨ha, hrest⟩ := List.pairwise_cons.mp hl
      obtain ⟨hb, hrest'⟩ := List.pairwise_cons.mp hl'
      have hab : key a = key b := by
        have hba : key b ≤ key a := by
          rcases List.mem_cons.mp (mem_of_filter_key_eq h List.mem_cons_self) with heq | hmem
          · exact (congrArg key heq).ge
          · exact hb a hmem
        have hle : key a ≤ key b := by
          rcases List.mem_cons.mp
            (mem_of_filter_key_eq (fun k => (h k).symm) List.mem_cons_self) with heq | hmem
          · exact (congrArg key heq).ge
          · exact ha b hmem
        exact le_antisymm hle hba
      have hfirst := h (key a)
      rw [List.filter_cons_of_pos (by simp), List.filter_cons_of_pos (by simp [hab])] at hfirst
      obtain ⟨rfl, -⟩ := List.cons.inj hfirst
      refine congrArg (a :: ·) (ih hrest hrest' ?_)
      intro k
      have hk := h k
      by_cases hak : key a = k
      · rw [List.filter_cons_of_pos (by simp [hak]), List.filter_cons_of_pos (by simp [hak])] at hk
        exact (List.cons.inj hk).2
      · rw [List.filter_cons_of_neg (by simp [hak]), List.filter_cons_of_neg (by simp [hak])] at hk
        exact hk

end Keys

end Chargeback.Sorting
