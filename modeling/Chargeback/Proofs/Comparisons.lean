import Chargeback.Proofs.DoubleArithmetic
import Chargeback.Proofs.Doubles
import Chargeback.Rule.Condition

/-!
# Comparisons agree with each other

The comparisons of a condition are made by different rules: equality looks at texts first and at numbers
second, the orderings look at numbers only, and containment looks at texts only. They agree nevertheless,
because the same text on both sides is read as the same number. What this rests on is the order of finite
doubles: two of them stand to each other in exactly one of three ways, and the two zeros are equal.
-/

namespace Chargeback

/-! ## The order of doubles -/

namespace Number

open Float.Model Float.Model.UnpackedFloat

theorem unpacked_compare_swap (u v : UnpackedFloat) : v.compare u = (u.compare v).map Ordering.swap := by
  -- Of two numbers of the same sign, the exponents are compared first and the mantissas second.
  have hmagnitude (e e' : ℤ) (m m' : ℕ) : (compare e' e).then (compare m' m) =
      ((compare e e').then (compare m m')).swap := by
    rw [Ordering.swap_then, Int.compare_swap, Nat.compare_swap]
  cases u with
  | notANumber => cases v <;> rfl
  | infinity s =>
    cases v with
    | infinity t => cases s <;> cases t <;> rfl
    | finite t _ _ _ => cases s <;> cases t <;> rfl
    | _ => cases s <;> rfl
  | zero s =>
    cases v with
    | infinity t => cases t <;> rfl
    | finite t _ _ _ => cases t <;> rfl
    | _ => rfl
  | finite s m e _ =>
    cases v with
    | infinity t => cases s <;> cases t <;> rfl
    | finite t m' e' _ =>
      cases s <;> cases t <;> simp [UnpackedFloat.compare, hmagnitude e e' m m']
    | _ => cases s <;> rfl

theorem exists_compare_eq_some {u v : UnpackedFloat} (hu : u.isFinite = true)
    (hv : v.isFinite = true) : ∃ o, u.compare v = some o := by
  cases u with
  | notANumber => cases hu
  | infinity _ => cases hu
  | zero _ =>
    cases v with
    | notANumber => cases hv
    | infinity _ => cases hv
    | zero _ => exact ⟨_, rfl⟩
    | finite t _ _ _ => cases t <;> exact ⟨_, rfl⟩
  | finite s _ _ _ =>
    cases v with
    | notANumber => cases hv
    | infinity _ => cases hv
    | zero _ => cases s <;> exact ⟨_, rfl⟩
    | finite t _ _ _ => cases s <;> cases t <;> exact ⟨_, rfl⟩

/-- How a double stands to another one. What is no number stands in no order to anything. -/
def order? (x y : Float) : Option Ordering := x.toModel.unpack.compare y.toModel.unpack

theorem order?_swap (x y : Float) : order? y x = (order? x y).map Ordering.swap :=
  unpacked_compare_swap _ _

theorem beq_eq_order? (x y : Float) : (x == y) = (order? x y == some .eq) := rfl

theorem less_eq_order? (x y : Float) : Scalar.less x y = (order? x y == some .lt) := by
  show decide (decide ((order? x y == some .lt) = true) = true) = _
  rw [Bool.decide_eq_true, Bool.decide_eq_true]

theorem lessOrEqual_eq_order? (x y : Float) :
    Scalar.lessOrEqual x y = (order? x y).any Ordering.isLE := by
  show decide (decide ((order? x y).any Ordering.isLE = true) = true) = _
  rw [Bool.decide_eq_true, Bool.decide_eq_true]

theorem exists_order? {x y : Float} (hx : x.isFinite = true) (hy : y.isFinite = true) :
    ∃ o, order? x y = some o := by
  rw [isFinite_eq] at hx hy
  exact exists_compare_eq_some hx hy

theorem beq_self_of_isFinite {x : Float} (hx : x.isFinite = true) : (x == x) = true := by
  obtain ⟨o, ho⟩ := exists_order? hx hx
  have hswap := order?_swap x x
  rw [ho, Option.map_some, Option.some.injEq] at hswap
  rw [beq_eq_order?, ho]
  cases o with
  | eq => rfl
  | lt => cases hswap
  | gt => cases hswap

theorem beq_swap (x y : Float) : (x == y) = (y == x) := by
  rw [beq_eq_order?, beq_eq_order?, order?_swap x y]
  rcases order? x y with _ | o
  · rfl
  · cases o <;> rfl

end Number

/-! ## Values that are read as numbers -/

/-- All capacities of a resource are finite. -/
structure Resource.HasFiniteCapacities (r : Resource Float) : Prop where
  cpu : r.cpu.isFinite = true
  memory : r.memory.isFinite = true
  storage : r.storage.isFinite = true

namespace FieldValue

/-- A value is a finite number, or a text that spells one. -/
def IsNumber (v : FieldValue Float) : Prop := ∃ x, v.number? = some x ∧ x.isFinite = true

/-- The comparisons that ask for numbers on both sides. -/
def orderings : List Comparison := [.lessThan, .greaterThan, .lessOrEqual, .greaterOrEqual]

variable {v : FieldValue Float} {rhs : String} {x y : Float}

/-- Where one side is no number, no ordering holds. -/
theorem compare_orderings_of_none (h : v.number? = none ∨ Scalar.parse? (α := Float) rhs = none)
    {comparison : Comparison} (hcomparison : comparison ∈ orderings) :
    v.compare comparison rhs = false := by
  have hordered (order : Float → Float → Bool) : v.ordered rhs order = false := by
    unfold ordered
    split
    · rename_i hx hy
      rcases h with h | h
      · rw [h] at hx; cases hx
      · rw [h] at hy; cases hy
    · rfl
  simp only [orderings, List.mem_cons, List.not_mem_nil, or_false] at hcomparison
  rcases hcomparison with rfl | rfl | rfl | rfl <;> exact hordered _

/-- Values that are read as numbers are equal exactly if these are: identical texts are read as the same
number, which is equal to itself. -/
theorem looselyEquals_eq (hx : v.number? = some x) (hfinite : x.isFinite = true)
    (hy : Scalar.parse? rhs = some y) : v.looselyEquals rhs = (x == y) := by
  unfold looselyEquals
  cases v with
  | absent => cases hx
  | number z =>
    cases hx
    simp only [hy]
    exact Number.beq_swap y x
  | text s =>
    have hs : Scalar.parse? s = some x := hx
    simp only [hs, hy]
    by_cases hsame : s = rhs
    · subst hsame
      rw [hs, Option.some.injEq] at hy
      subst hy
      rw [Number.beq_self_of_isFinite hfinite, Bool.or_true]
    · rw [beq_eq_false_iff_ne.mpr hsame, Bool.false_or]

/-- Where both sides are numbers, they stand to each other in one of three ways, and every comparison of
numbers is decided by it. -/
theorem exists_ordering (hx : v.number? = some x) (hfinite : x.isFinite = true)
    (hy : Scalar.parse? rhs = some y) :
    ∃ o : Ordering, v.compare .equals rhs = (o == .eq) ∧
      v.compare .lessThan rhs = (o == .lt) ∧ v.compare .greaterThan rhs = (o == .gt) ∧
      v.compare .lessOrEqual rhs = o.isLE ∧ v.compare .greaterOrEqual rhs = o.isGE := by
  obtain ⟨o, ho⟩ := Number.exists_order? hfinite (Number.isFinite_of_parse? hy)
  have hswap := Number.order?_swap x y
  rw [ho] at hswap
  have hordered (order : Float → Float → Bool) : v.ordered rhs order = order x y := by
    rw [ordered, hx, hy]
  refine ⟨o, ?_, ?_, ?_, ?_, ?_⟩
  · rw [compare, looselyEquals_eq hx hfinite hy, Number.beq_eq_order?, ho]
    cases o <;> rfl
  · rw [compare, hordered, Number.less_eq_order?, ho]
    cases o <;> rfl
  · rw [compare, hordered, Number.less_eq_order?, hswap]
    cases o <;> rfl
  · rw [compare, hordered, Number.lessOrEqual_eq_order?, ho]
    cases o <;> rfl
  · rw [compare, hordered, Number.lessOrEqual_eq_order?, hswap]
    cases o <;> rfl

end FieldValue

/-! ## Conditions -/

/-- The numbers of a resource are its capacities. -/
theorem Field.eq_capacity_of_resolve {r : Resource Float} {field : Field} {x : Float}
    (h : field.resolve r = .number x) : x = r.cpu ∨ x = r.memory ∨ x = r.storage := by
  cases field with
  | ofAttribute a =>
    cases a with
    | cpu => exact .inl (FieldValue.number.inj h).symm
    | memory => exact .inr (.inl (FieldValue.number.inj h).symm)
    | storage => exact .inr (.inr (FieldValue.number.inj h).symm)
    | kind =>
      simp only [resolve, Resource.get] at h
      split at h <;> cases h
    | _ => cases h
  | tag key =>
    simp only [resolve] at h
    split at h <;> cases h
  | tagPair => cases h
  | unknown name => cases h

/-- What a resource with finite capacities has or spells is a finite number. -/
theorem Resource.HasFiniteCapacities.isFinite_of_resolve {r : Resource Float}
    (hr : r.HasFiniteCapacities) {field : Field} {x : Float}
    (h : (field.resolve r).number? = some x) : x.isFinite = true := by
  cases hvalue : field.resolve r with
  | absent => rw [hvalue] at h; cases h
  | text s =>
    rw [hvalue] at h
    exact Number.isFinite_of_parse? h
  | number z =>
    rw [hvalue] at h
    obtain rfl : z = x := Option.some.inj h
    rcases Field.eq_capacity_of_resolve hvalue with rfl | rfl | rfl
    · exact hr.cpu
    · exact hr.memory
    · exact hr.storage

namespace Field

variable {r : Resource Float}

/-- Whether a field of a resource stands to a text as a comparison demands. -/
def stands (field : Field) (r : Resource Float) (value : String) (comparison : Comparison) : Bool :=
  Condition.holds ⟨field, comparison, value⟩ r

/-- Every field but the shortcut for tags is resolved and then compared. -/
theorem stands_of_ne_tagPair {field : Field} (hfield : field ≠ .tagPair) (value : String)
    (comparison : Comparison) :
    field.stands r value comparison = (field.resolve r).compare comparison value := by
  cases field with
  | tagPair => exact absurd rfl hfield
  | _ => rfl

/-- The comparisons of a field with a text fit together. What is not equal is all that is not equal, and
what does not contain is all that does not contain, but for the shortcut for tags, where neither is ever
so. On every other field, numbers on both sides stand to each other in exactly one of three ways, which
decides the other two orderings; and where one side is no finite number, no ordering holds. -/
theorem comparisons_cohere (hr : r.HasFiniteCapacities) (field : Field) (value : String) :
    let stands := field.stands r value
    let numbers := (field.resolve r).IsNumber ∧ (FieldValue.text value).IsNumber
    stands .notEquals = !stands .equals ∧
    (field = .tagPair → stands .contains = false ∧ stands .notContains = false) ∧
    (field ≠ .tagPair →
      stands .notContains = !stands .contains ∧
      (numbers →
        [.lessThan, .equals, .greaterThan].countP stands = 1 ∧
        stands .lessOrEqual = (stands .lessThan || stands .equals) ∧
        stands .greaterOrEqual = (stands .greaterThan || stands .equals)) ∧
      (¬numbers → ∀ comparison ∈ FieldValue.orderings, stands comparison = false)) := by
  intro stands numbers
  refine ⟨?_, ?_, fun hfield => ?_⟩
  · by_cases hfield : field = .tagPair
    · subst hfield
      rfl
    · simp only [stands, stands_of_ne_tagPair hfield]
      rfl
  · rintro rfl
    exact ⟨rfl, rfl⟩
  · have hstands (comparison : Comparison) :
        stands comparison = (field.resolve r).compare comparison value :=
      stands_of_ne_tagPair hfield value comparison
    refine ⟨?_, ?_, ?_⟩
    · rw [hstands, hstands]
      rfl
    · rintro ⟨⟨x, hx, hfinite⟩, y, hy, -⟩
      obtain ⟨o, hequals, hless, hgreater, hlessOrEqual, hgreaterOrEqual⟩ :=
        FieldValue.exists_ordering hx hfinite hy
      simp only [List.countP_cons, List.countP_nil, hstands, hequals, hless, hgreater, hlessOrEqual,
        hgreaterOrEqual]
      cases o <;> decide
    · intro hnot comparison hcomparison
      rw [hstands]
      refine FieldValue.compare_orderings_of_none ?_ hcomparison
      -- What is read on either side is finite, so a side without a finite number has none.
      cases hx : (field.resolve r).number? with
      | none => exact .inl rfl
      | some x =>
        cases hy : Scalar.parse? (α := Float) value with
        | none => exact .inr rfl
        | some y =>
          exact absurd ⟨⟨x, hx, hr.isFinite_of_resolve hx⟩, y, hy, Number.isFinite_of_parse? hy⟩ hnot

end Field

namespace Sample

/-- A resource without processors. -/
def idle : Resource Float := ⟨"1", "web", none, "", "", 0, 32, 500, ∅⟩

end Sample

theorem Field.comparisons_cohere_zeros :
    let stands := (Field.ofAttribute .cpu).stands Sample.idle
    Sample.idle.HasFiniteCapacities ∧
      stands " -0 " .equals = true ∧
      [.lessThan, .equals, .greaterThan].countP (stands " -0 ") = 1 ∧
      stands " -0 " .lessOrEqual = true ∧
      ∀ comparison ∈ FieldValue.orderings, stands "many" comparison = false := by
  intro stands
  have hfinite : Sample.idle.HasFiniteCapacities := ⟨by decide, by decide, by decide⟩
  have hzero : (FieldValue.number (0 : Float)).IsNumber := ⟨0, rfl, by decide⟩
  have hnegative : (FieldValue.text " -0 " : FieldValue Float).IsNumber :=
    ⟨-0.0, by decide, by decide⟩
  have hmany : ¬(FieldValue.text "many" : FieldValue Float).IsNumber := by
    rintro ⟨x, hx, -⟩
    cases hx
  have hequals : (Field.ofAttribute .cpu).stands Sample.idle " -0 " .equals = true := by decide
  obtain ⟨-, -, hnumbers⟩ := comparisons_cohere hfinite (.ofAttribute .cpu) " -0 "
  obtain ⟨hone, hlessOrEqual, -⟩ := (hnumbers (by decide)).2.1 ⟨hzero, hnegative⟩
  obtain ⟨-, -, hothers⟩ := comparisons_cohere hfinite (.ofAttribute .cpu) "many"
  refine ⟨hfinite, hequals, hone, ?_, (hothers (by decide)).2.2 fun h => hmany h.2⟩
  rw [hequals, Bool.or_true] at hlessOrEqual
  exact hlessOrEqual

end Chargeback
