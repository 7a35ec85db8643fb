import Chargeback.Portfolio.Totals
import Chargeback.Proofs.Comparisons
import Chargeback.Proofs.Sorting

/-!
# The costliest resources

The breakdowns that cost most are described without any sorting. A ranking of a list names each of its
places once, so that costs do not increase and equal costs keep the order of the list. There is exactly
one, as long as every cost is a number, and the costliest breakdowns are those at its first places.

Places are ranked and not breakdowns, because a list may hold the same breakdown twice. What makes the
ranking unique is that doubles have keys in a linear order: two of them compare as their keys do, and
the two zeros have the same key.
-/

namespace Chargeback

/-! ## Keys of doubles -/

namespace Number

open Float.Model Float.Model.UnpackedFloat

/-- The key of a value: the infinities stand at both ends, the negative numbers below the zeros and the
positive ones above. Within a sign the exponent decides first and the mantissa second. -/
def unpackedKey : UnpackedFloat → ℤ ×ₗ ℤ ×ₗ ℤ
  | .notANumber => toLex (0, toLex (0, 0))
  | .infinity .negative => toLex (-2, toLex (0, 0))
  | .finite .negative mantissa exponent _ => toLex (-1, toLex (-exponent, -mantissa))
  | .zero _ => toLex (0, toLex (0, 0))
  | .finite .positive mantissa exponent _ => toLex (1, toLex (exponent, mantissa))
  | .infinity .positive => toLex (2, toLex (0, 0))

theorem compare_neg_neg (a b : ℤ) : compare (-a) (-b) = (compare a b).swap := by
  rcases lt_trichotomy a b with h | rfl | h
  · rw [compare_lt_iff_lt.mpr h, compare_gt_iff_gt.mpr (neg_lt_neg h)]
    rfl
  · rw [compare_eq_iff_eq.mpr rfl, compare_eq_iff_eq.mpr rfl]
    rfl
  · rw [compare_gt_iff_gt.mpr h, compare_lt_iff_lt.mpr (neg_lt_neg h)]
    rfl

theorem compare_cast (m n : ℕ) : compare (m : ℤ) (n : ℤ) = compare m n := by
  rcases lt_trichotomy m n with h | rfl | h
  · rw [compare_lt_iff_lt.mpr h, compare_lt_iff_lt.mpr (Int.ofNat_lt.mpr h)]
  · rw [compare_eq_iff_eq.mpr rfl, compare_eq_iff_eq.mpr rfl]
  · rw [compare_gt_iff_gt.mpr h, compare_gt_iff_gt.mpr (Int.ofNat_lt.mpr h)]

theorem compare_key (a b c a' b' c' : ℤ) :
    compare (toLex (a, toLex (b, c))) (toLex (a', toLex (b', c'))) =
      (compare a a').then ((compare b b').then (compare c c')) := rfl

/-- Values that are numbers compare as their keys do. -/
theorem unpacked_compare_eq {u v : UnpackedFloat} (hu : u.isNaN = false) (hv : v.isNaN = false) :
    u.compare v = some (compare (unpackedKey u) (unpackedKey v)) := by
  -- The first components differ unless both values are finite and have the same sign.
  cases u with
  | notANumber => cases hu
  | infinity s =>
    cases v with
    | notANumber => cases hv
    | infinity t => cases s <;> cases t <;> rfl
    | zero t => cases s <;> rfl
    | finite t _ _ _ => cases s <;> cases t <;> rfl
  | zero s =>
    cases v with
    | notANumber => cases hv
    | infinity t => cases t <;> rfl
    | zero t => rfl
    | finite t _ _ _ => cases t <;> rfl
  | finite s m e _ =>
    cases v with
    | notANumber => cases hv
    | infinity t => cases s <;> cases t <;> rfl
    | zero t => cases s <;> rfl
    | finite t m' e' _ =>
      cases s with
      | negative =>
        cases t with
        | negative =>
          rw [unpackedKey, unpackedKey, compare_key, compare_neg_neg e e',
            compare_neg_neg (m : ℤ) m', compare_cast, ← Ordering.swap_then]
          rfl
        | positive => rfl
      | positive =>
        cases t with
        | negative => rfl
        | positive =>
          rw [unpackedKey, unpackedKey, compare_key, compare_cast]
          rfl

/-- The key of a double. -/
def key (x : Float) : ℤ ×ₗ ℤ ×ₗ ℤ := unpackedKey x.toModel.unpack

section Keys

variable {x y : Float} (hx : x.isNaN = false) (hy : y.isNaN = false)
include hx hy

theorem order?_eq_key : order? x y = some (compare (key x) (key y)) := unpacked_compare_eq hx hy

theorem less_eq_key : Scalar.less x y = decide (key x < key y) := by
  rw [less_eq_order?, order?_eq_key hx hy, Bool.eq_iff_iff, beq_iff_eq, Option.some.injEq,
    compare_lt_iff_lt, decide_eq_true_iff]

theorem le_iff_key : x ≤ y ↔ key x ≤ key y := by
  have hle : Scalar.lessOrEqual x y = decide (x ≤ y) := rfl
  rw [← decide_eq_true_iff (p := x ≤ y), ← hle, lessOrEqual_eq_order?, order?_eq_key hx hy,
    Option.any_some, Ordering.isLE_iff_ne_gt, compare_gt_iff_gt, not_lt]

theorem beq_iff_key : (x == y) = true ↔ key x = key y := by
  rw [beq_eq_order?, order?_eq_key hx hy, beq_iff_eq, Option.some.injEq, compare_eq_iff_eq]

end Keys

end Number

/-! ## Rankings -/

/-- A list of places ranks breakdowns by their cost: it names each place once, costs do not increase
along it, and places of equal cost stand in it in the order of the list. -/
structure IsRanking (l : List (Breakdown Float)) (places : List (Fin l.length)) : Prop where
  perm : places.Perm (List.finRange l.length)
  falls : places.Pairwise fun i j => (l.get j).monthly ≤ (l.get i).monthly
  stable : places.Pairwise fun i j => ((l.get i).monthly == (l.get j).monthly) = true → i < j

/-- The places of a list, the costliest breakdown first. -/
def ranking (l : List (Breakdown Float)) : List (Fin l.length) :=
  Sorting.stableSort (fun i j => Scalar.less (l.get j).monthly (l.get i).monthly)
    (List.finRange l.length)

/-- The costliest breakdowns are those at the first places of the ranking. -/
theorem topByCost_eq_map (count : Nat) (l : List (Breakdown Float)) :
    topByCost count l = ((ranking l).take count).map l.get := by
  have hsort : Sorting.stableSort (fun a b => Scalar.less b.monthly a.monthly) l =
      (ranking l).map l.get := by
    have hl : (List.finRange l.length).map l.get = l := List.map_get_finRange l
    conv_lhs => rw [← hl]
    exact Sorting.stableSort_map l.get (List.finRange l.length)
  rw [topByCost, hsort, List.map_take]

section Ranking

variable {l : List (Breakdown Float)} (hl : ∀ b ∈ l, b.monthly.isNaN = false)
include hl

theorem ranking_isRanking : IsRanking l (ranking l) := by
  have hnumber (i : Fin l.length) : (l.get i).monthly.isNaN = false := hl _ (List.get_mem l i)
  let cost (i : Fin l.length) := Number.key (l.get i).monthly
  have hbefore : (fun i j => Scalar.less (l.get j).monthly (l.get i).monthly) =
      fun i j : Fin l.length => decide (OrderDual.toDual (cost i) < OrderDual.toDual (cost j)) := by
    funext i j
    exact Number.less_eq_key (hnumber j) (hnumber i)
  -- The cost decides what stands first, and the place decides between equal costs.
  have hsorted : (ranking l).Pairwise fun i j => cost j < cost i ∨ cost j ≤ cost i ∧ i < j := by
    rw [ranking, hbefore]
    refine (Sorting.pairwise_stableSort (Sorting.IsWeakOrder.of_key _)
      (List.pairwise_lt_finRange l.length)).imp ?_
    rintro i j (hij | ⟨hji, hplace⟩)
    · exact .inl (of_decide_eq_true hij)
    · exact .inr ⟨not_lt.mp (of_decide_eq_false hji), hplace⟩
  refine ⟨Sorting.stableSort_perm _ _, hsorted.imp ?_, hsorted.imp ?_⟩
  · intro i j hij
    rw [Number.le_iff_key (hnumber j) (hnumber i)]
    rcases hij with hij | ⟨hij, -⟩
    · exact hij.le
    · exact hij
  · intro i j hij heq
    rw [Number.beq_iff_key (hnumber i) (hnumber j)] at heq
    rcases hij with hij | ⟨-, hplace⟩
    · exact absurd heq hij.ne'
    · exact hplace

/-- Two rankings are the same: what stands before what is decided by the costs, and by the places where
these are equal. -/
theorem IsRanking.unique {places places' : List (Fin l.length)} (h : IsRanking l places)
    (h' : IsRanking l places') : places = places' := by
  have hnumber (i : Fin l.length) : (l.get i).monthly.isNaN = false := hl _ (List.get_mem l i)
  have hboth {places : List (Fin l.length)} (h : IsRanking l places) := h.falls.and h.stable
  refine List.Perm.eq_of_pairwise ?_ (hboth h) (hboth h') (h.perm.trans h'.perm.symm)
  rintro i j - - ⟨hji, hij⟩ ⟨hij', hji'⟩
  rw [Number.le_iff_key (hnumber _) (hnumber _)] at hji hij'
  have heq := le_antisymm hij' hji
  have hlt : i < j := hij ((Number.beq_iff_key (hnumber i) (hnumber j)).mpr heq)
  have hgt : j < i := hji' ((Number.beq_iff_key (hnumber j) (hnumber i)).mpr heq.symm)
  exact absurd hlt hgt.not_gt

/-- Where every cost of a list of breakdowns is a number, the list has one ranking only, and the
costliest breakdowns are those at its first places, as many as are asked for or all. What is left out
costs no more than what is kept, and stands behind it in the list where it costs the same. Asking for
fewer breakdowns gives the first of them. -/
theorem topByCost_ranks :
    IsRanking l (ranking l) ∧ (∀ places, IsRanking l places → places = ranking l) ∧
      ∀ count,
        (topByCost count l).length = min count l.length ∧
        topByCost count l = ((ranking l).take count).map l.get ∧
        (∀ kept ∈ (ranking l).take count, ∀ left ∈ (ranking l).drop count,
          (l.get left).monthly ≤ (l.get kept).monthly ∧
          (((l.get kept).monthly == (l.get left).monthly) = true → kept < left)) ∧
        ∀ fewer ≤ count, topByCost fewer l <+: topByCost count l := by
  have hranking := ranking_isRanking hl
  refine ⟨hranking, fun places h => h.unique hl hranking, fun count => ⟨?_, ?_, ?_, ?_⟩⟩
  · rw [topByCost_eq_map, List.length_map, List.length_take, hranking.perm.length_eq,
      List.length_finRange]
  · exact topByCost_eq_map count l
  · intro kept hkept left hleft
    have hfalls := hranking.falls
    have hstable := hranking.stable
    rw [← List.take_append_drop count (ranking l), List.pairwise_append] at hfalls hstable
    exact ⟨hfalls.2.2 kept hkept left hleft, hstable.2.2 kept hkept left hleft⟩
  · intro fewer hfewer
    rw [topByCost_eq_map, topByCost_eq_map]
    exact (List.take_prefix_take_left hfewer).map l.get

end Ranking

namespace Sample

/-- The breakdown of a resource that costs some amount. -/
def costing (name : String) (monthly : Float) : Breakdown Float where
  resourceId := name
  resourceName := name
  model := none
  profiles := []
  monthly := monthly
  oneTime := 0
  capex := 0
  opex := 0
  items := []

/-- Two resources that cost nothing, by zeros of both signs, and two that cost the same. -/
def costs : List (Breakdown Float) :=
  [costing "idle" (-0.0), costing "web" 5, costing "spare" 0, costing "mail" 5, costing "refund" (-2)]

end Sample

theorem topByCost_ranks_ties :
    (∀ b ∈ Sample.costs, b.monthly.isNaN = false) ∧
      (topByCost 3 Sample.costs).map Breakdown.resourceName = ["web", "mail", "idle"] ∧
      topByCost 2 Sample.costs <+: topByCost 3 Sample.costs := by
  have hnumbers : ∀ b ∈ Sample.costs, b.monthly.isNaN = false := by decide
  obtain ⟨-, hunique, htop⟩ := topByCost_ranks hnumbers
  obtain ⟨-, heq, -, hprefix⟩ := htop 3
  have hplaces : IsRanking Sample.costs
      [⟨1, by decide⟩, ⟨3, by decide⟩, ⟨0, by decide⟩, ⟨2, by decide⟩, ⟨4, by decide⟩] :=
    ⟨by decide, by decide, by decide⟩
  refine ⟨hnumbers, ?_, hprefix 2 (by decide)⟩
  rw [heq, ← hunique _ hplaces]
  rfl

end Chargeback
