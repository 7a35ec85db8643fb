/-!
# Stable sorting

Sorting by a relation "belongs before". Every item is put behind the last item that it does not
belong before, so items between which the relation does not decide keep their order.
-/

namespace Chargeback.Sorting

variable {α : Type}

/-- Puts an item into a list that is sorted from the end to the front. -/
def insertBackwards (before : α → α → Bool) (x : α) : List α → List α
  | [] => [x]
  | y :: rest => if before x y then y :: insertBackwards before x rest else x :: y :: rest

/-- Puts the items of a list one after the other into a list sorted from the end to the front. -/
def sortOnto (before : α → α → Bool) (sorted : List α) : List α → List α
  | [] => sorted
  | x :: rest => sortOnto before (insertBackwards before x sorted) rest

/-- The items of a list in order. -/
def stableSort (before : α → α → Bool) (l : List α) : List α := (sortOnto before [] l).reverse

/-- Putting an item in loses and adds nothing else. -/
theorem insertBackwards_perm (before : α → α → Bool) (x : α) (l : List α) :
    (insertBackwards before x l).Perm (x :: l) := by
  induction l with
  | nil => exact .refl _
  | cons y rest ih =>
    rw [insertBackwards]
    split
    · exact (ih.cons y).trans (.swap x y rest)
    · exact .refl _

/-- Sorting onto a list loses and adds nothing. -/
theorem sortOnto_perm (before : α → α → Bool) (sorted l : List α) :
    (sortOnto before sorted l).Perm (sorted ++ l) := by
  induction l generalizing sorted with
  | nil => simp [sortOnto]
  | cons x rest ih =>
    refine (ih _).trans ?_
    refine ((insertBackwards_perm before x sorted).append_right rest).trans ?_
    exact List.perm_middle.symm

/-- Sorting loses and adds nothing. -/
theorem stableSort_perm (before : α → α → Bool) (l : List α) : (stableSort before l).Perm l :=
  (List.reverse_perm _).trans (by simpa using sortOnto_perm before [] l)

end Chargeback.Sorting
