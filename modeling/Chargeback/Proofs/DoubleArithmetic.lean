import Mathlib
import Chargeback.Scalar

/-!
# Doubles at their edges

What additions and products of doubles do with a zero that has a minus sign and with values that are
not finite. A sum is the negative zero only if both parts are: an addition never rounds, on the grid of
the smallest doubles, a sum that is not zero to zero, and where two parts cancel each other the zero is
positive. So a sum from the left that starts with the usual zero never is the negative one, and it does
not matter which of the two zeros it starts with, unless nothing is added. A product is finite only if
both factors are.
-/

namespace Chargeback.Number

open Float.Model Float.Model.UnpackedFloat

/-- The zero with a minus sign, which changes no sum. -/
def negativeZero : Float := -0.0

/-! ## Rounding keeps numbers apart from zero -/

theorem mantissa_shiftRight (m : ExtendedMantissa) (k : ℕ) :
    (m >>> k).mantissa = m.mantissa / 2 ^ k := by
  induction k with
  | zero => exact (Nat.div_one _).symm
  | succ k ih =>
    show (m >>> k).mantissa / 2 = m.mantissa / 2 ^ (k + 1)
    rw [ih, Nat.div_div_eq_div_mul, Nat.pow_succ]

theorem mantissa_ofMantissaAndAccuracy (mantissa : ℕ) (accuracy : Accuracy) :
    (ExtendedMantissa.ofMantissaAndAccuracy mantissa accuracy).mantissa = mantissa := by
  cases accuracy with
  | exact => rfl
  | inexact side => cases side <;> rfl

theorem mantissa_le_roundedMantissa (m : ExtendedMantissa) : m.mantissa ≤ m.roundedMantissa := by
  obtain ⟨mantissa, round, sticky⟩ := m
  cases round <;> cases sticky <;>
    simp [ExtendedMantissa.roundedMantissa, ExtendedMantissa.accuracy, Accuracy.roundToNearestEven]

/-- By how many bits a mantissa is shortened. -/
def surplus (mantissa : ℕ) (exponent : ℤ) : ℕ :=
  (Format.binary64.targetExponent (totalExponent mantissa exponent) - exponent).toNat

theorem surplus_eq (mantissa : ℕ) (exponent : ℤ) :
    surplus mantissa exponent =
      (max ((mantissa.log2 : ℤ) + 1 + exponent - 53) (-1074) - exponent).toNat := rfl

/-- From the least exponent on, a mantissa is shortened to 53 bits at least, and never to zero. -/
theorem shortened_bounds {mantissa : ℕ} {exponent : ℤ} (hpos : 0 < mantissa)
    (hexponent : -1074 ≤ exponent) :
    0 < mantissa / 2 ^ surplus mantissa exponent ∧
      mantissa / 2 ^ surplus mantissa exponent < 2 ^ 53 := by
  have hlower := Nat.log2_self_le hpos.ne'
  have hupper := Nat.lt_log2_self (n := mantissa)
  have hsurplus : surplus mantissa exponent = mantissa.log2 - 52 := by
    rw [surplus_eq]
    omega
  rw [hsurplus]
  constructor
  · refine Nat.div_pos (le_trans ?_ hlower) (Nat.two_pow_pos _)
    exact Nat.pow_le_pow_right two_pos (Nat.sub_le _ _)
  · rw [Nat.div_lt_iff_lt_mul (Nat.two_pow_pos _), ← Nat.pow_add]
    exact hupper.trans_le (Nat.pow_le_pow_right two_pos (by omega))

theorem exists_roundWithAccuracy_eq_finite (sign : Sign) {mantissa : ℕ} {exponent : ℤ}
    (hpos : 0 < mantissa) (hexponent : -1074 ≤ exponent) (accuracy : Accuracy) :
    ∃ m e, ∃ hm : 0 < m,
      roundWithAccuracy Format.binary64 sign mantissa exponent accuracy = .finite sign m e hm ∧
        m < 2 ^ 53 ∧ -1074 ≤ e := by
  -- Rounding up may take one bit too many, so the mantissa is shortened a second time.
  let first := (shiftToTargetExponent Format.binary64 mantissa exponent accuracy).1
  have hfirst : first.mantissa = mantissa / 2 ^ surplus mantissa exponent := by
    show (ExtendedMantissa.ofMantissaAndAccuracy mantissa accuracy >>>
      surplus mantissa exponent).mantissa = _
    rw [mantissa_shiftRight, mantissa_ofMantissaAndAccuracy]
  let middle : ℤ := exponent + surplus mantissa exponent
  have hmiddle : -1074 ≤ middle := by omega
  have hrounded : 0 < first.roundedMantissa := by
    have hle := mantissa_le_roundedMantissa first
    rw [hfirst] at hle
    exact (shortened_bounds hpos hexponent).1.trans_le hle
  obtain ⟨hm, hlt⟩ := shortened_bounds hrounded hmiddle
  refine ⟨_, middle + surplus first.roundedMantissa middle, hm, ?_, hlt, by omega⟩
  have hsecond : (shiftToTargetExponent Format.binary64 first.roundedMantissa middle .exact).1.mantissa =
      first.roundedMantissa / 2 ^ surplus first.roundedMantissa middle := by
    show (ExtendedMantissa.ofMantissaAndAccuracy first.roundedMantissa .exact >>>
      surplus first.roundedMantissa middle).mantissa = _
    rw [mantissa_shiftRight, mantissa_ofMantissaAndAccuracy]
  have hne : (shiftToTargetExponent Format.binary64 first.roundedMantissa middle
      .exact).1.mantissa ≠ 0 := by
    rw [hsecond]
    exact hm.ne'
  refine (dif_neg hne).trans ?_
  congr 1

/-- What is not zero and lies on the grid of the smallest doubles is not rounded to zero. -/
theorem exists_round_eq_finite (sign : Sign) {mantissa : ℕ} {exponent : ℤ} (hpos : 0 < mantissa)
    (hexponent : -1074 ≤ exponent) :
    ∃ m e, ∃ hm : 0 < m,
      UnpackedFloat.round Format.binary64 sign mantissa exponent = .finite sign m e hm ∧
        m < 2 ^ 53 ∧ -1074 ≤ e := by
  let shift := (exponent - Format.binary64.targetExponent (totalExponent mantissa exponent)).toNat
  have hshifted : 0 < mantissa <<< shift := by
    rw [Nat.shiftLeft_eq]
    exact Nat.mul_pos hpos (Nat.two_pow_pos _)
  have hgrid : -1074 ≤ exponent - shift := by
    have htarget : -1074 ≤ Format.binary64.targetExponent (totalExponent mantissa exponent) :=
      le_max_right _ _
    omega
  exact exists_roundWithAccuracy_eq_finite sign hshifted hgrid .exact

theorem fields_eq_zero_of_packComponents {sign zeroSign : Sign}
    {exponent : BitVec Format.binary64.exponentBits}
    {mantissa : BitVec Format.binary64.mantissaBitsWithoutImplicit}
    (h : packComponents Format.binary64 sign exponent mantissa =
      packedZero Format.binary64 zeroSign) : exponent.toNat = 0 ∧ mantissa.toNat = 0 := by
  have hexponent := congrArg (fun b => (unpackExponent b).toNat) h
  have hmantissa := congrArg (fun b => (unpackMantissa b).toNat) h
  simp only [packedZero, unpackExponent_packComponents, unpackMantissa_packComponents]
    at hexponent hmantissa
  exact ⟨hexponent, hmantissa⟩

/-- A mantissa that is not zero is not packed into the bits of a zero. -/
theorem pack_finite_ne_packedZero (sign zeroSign : Sign) {mantissa : ℕ} {exponent : ℤ}
    (hpos : 0 < mantissa) (hmantissa : mantissa < 2 ^ 53) (hexponent : -1074 ≤ exponent) :
    UnpackedFloat.pack Format.binary64 (.finite sign mantissa exponent hpos) ≠
      packedZero Format.binary64 zeroSign := by
  intro heq
  have hbits : Format.binary64.mantissaBits = 53 := rfl
  have hbias : Format.binary64.exponentBias = 1023 := rfl
  unfold UnpackedFloat.pack at heq
  dsimp only at heq
  rw [hbits, hbias] at heq
  split at heq
  · exact absurd (fields_eq_zero_of_packComponents heq).1 (by decide)
  · rename_i hsmall
    split at heq
    · have hzero := (fields_eq_zero_of_packComponents heq).1
      rw [BitVec.toNat_ofNat, Nat.mod_eq_of_lt (Nat.lt_of_succ_lt (not_le.mp hsmall))] at hzero
      omega
    · rename_i hlog
      have hlog' : mantissa.log2 < 53 := (Nat.log2_lt hpos.ne').mpr hmantissa
      have hfraction : mantissa < 2 ^ 52 := (Nat.log2_lt hpos.ne').mp (by omega)
      have hzero := (fields_eq_zero_of_packComponents heq).2
      rw [BitVec.toNat_ofNat, Nat.mod_eq_of_lt hfraction] at hzero
      omega

/-! ## Sums and the negative zero -/

theorem eq_of_pack_eq {x : Float} {u : UnpackedFloat} (h : x.toModel.unpack = u) :
    Float.ofModel (.pack u) = x := by
  subst h
  exact Float.ofBits_toBits x

theorem eq_negativeZero_iff {x : Float} :
    x = negativeZero ↔ x.toModel.unpack = .zero .negative := by
  have hbits : negativeZero.toBits.toBitVec = packedZero Format.binary64 .negative := by
    decide
  have hzero : x.toModel.unpack = .zero .negative ↔ _ :=
    unpack_eq_zero_iff_of_valid x.toModel.valid
  rw [← Float.toBits_inj, ← UInt64.toBitVec_inj, hbits]
  exact hzero.symm

theorem unpack_zero : (Scalar.zero : Float).toModel.unpack = .zero .positive := by
  have hbits : (Scalar.zero : Float).toBits.toBitVec = packedZero Format.binary64 .positive := by
    decide
  exact (unpack_eq_zero_iff_of_valid (Scalar.zero : Float).toModel.valid).mpr hbits

theorem negativeZero_add (x : Float) : negativeZero + x = x := by
  refine Eq.trans ?_ (eq_of_pack_eq (x := x) rfl)
  have hzero := eq_negativeZero_iff.mp rfl
  show Float.ofModel (.pack (UnpackedFloat.add Format.binary64 negativeZero.toModel.unpack
    x.toModel.unpack)) = _
  rw [hzero]
  congr 2
  cases x.toModel.unpack with
  | zero sign => cases sign <;> rfl
  | _ => rfl

/-- Only the sign of the negative zero is lost when the usual zero is added to it. -/
theorem zero_add_of_ne {x : Float} (h : x ≠ negativeZero) : Scalar.zero + x = x := by
  refine Eq.trans ?_ (eq_of_pack_eq (x := x) rfl)
  rw [Ne, eq_negativeZero_iff] at h
  show Float.ofModel (.pack (UnpackedFloat.add Format.binary64 (Scalar.zero : Float).toModel.unpack
    x.toModel.unpack)) = _
  rw [unpack_zero]
  congr 2
  cases hx : x.toModel.unpack with
  | zero sign =>
    cases sign with
    | negative => exact absurd hx h
    | positive => rfl
  | _ => rfl

theorem exponent_of_unpack {x : Float} {sign : Sign} {mantissa : ℕ} {exponent : ℤ}
    {hpos : 0 < mantissa} (h : x.toModel.unpack = .finite sign mantissa exponent hpos) :
    -1074 ≤ exponent := by
  have hbias : Format.binary64.exponentBias = 1023 := rfl
  unfold Float.Model.unpack UnpackedFloat.unpack at h
  extract_lets fraction biased e signBits s at h
  split at h
  · split at h <;> cases h
  · rename_i hne
    split at h
    · rename_i hzero
      split at h
      · cases h
      · obtain ⟨-, -, rfl⟩ := UnpackedFloat.finite.inj h
        simp only [e, hbias]
        omega
    · rename_i hnormal
      obtain ⟨-, -, rfl⟩ := UnpackedFloat.finite.inj h
      have hpositive : 0 < biased.toNat := Nat.pos_of_ne_zero fun hzero =>
        hnormal (BitVec.eq_of_toNat_eq hzero)
      simp only [e, hbias]
      omega

/-- Where two parts cancel each other the sum is the positive zero, and elsewhere it is no zero. -/
theorem pack_normalize_ne_packedZero (mantissa : ℤ) {exponent : ℤ} (hexponent : -1074 ≤ exponent) :
    UnpackedFloat.pack Format.binary64
        (UnpackedFloat.normalize Format.binary64 mantissa exponent .positive) ≠
      packedZero Format.binary64 .negative := by
  have hround (sign : Sign) {m : ℕ} (hm : 0 < m) :
      UnpackedFloat.pack Format.binary64 (UnpackedFloat.round Format.binary64 sign m exponent) ≠
        packedZero Format.binary64 .negative := by
    obtain ⟨m', e', hm', heq, hlt, hle⟩ := exists_round_eq_finite sign hm hexponent
    rw [heq]
    exact pack_finite_ne_packedZero sign .negative hm' hlt hle
  unfold UnpackedFloat.normalize
  split
  · rename_i hlt
    have hneg : mantissa < 0 := Int.compare_eq_lt.mp hlt
    exact hround .negative (by omega)
  · decide
  · rename_i hgt
    have hpos : 0 < mantissa := Int.compare_eq_gt.mp hgt
    exact hround .positive (by omega)

theorem unpack_of_pack_eq {x : Float} {sign : Sign}
    (h : UnpackedFloat.pack Format.binary64 x.toModel.unpack = packedZero Format.binary64 sign) :
    x.toModel.unpack = .zero sign := by
  refine (unpack_eq_zero_iff_of_valid x.toModel.valid).mpr ?_
  rw [← h]
  exact (pack_unpack_of_valid x.toModel.valid).symm

theorem pack_infinity_ne_packedZero (sign zeroSign : Sign) :
    UnpackedFloat.pack Format.binary64 (.infinity sign) ≠ packedZero Format.binary64 zeroSign := by
  cases sign <;> cases zeroSign <;> decide

theorem pack_notANumber_ne_packedZero (zeroSign : Sign) :
    UnpackedFloat.pack Format.binary64 .notANumber ≠ packedZero Format.binary64 zeroSign := by
  cases zeroSign <;> decide

/-- What a sum can be. -/
theorem add_cases (u v : UnpackedFloat) :
    let sum := UnpackedFloat.add Format.binary64 u v
    sum = .notANumber ∨ (∃ sign, sum = .infinity sign) ∨ sum = .zero .positive ∨ sum = u ∨
      (∃ sign m e hm, v = .finite sign m e hm ∧ sum = v) ∨
      ∃ sign m e hm sign' m' e' hm' mantissa, u = .finite sign m e hm ∧
        v = .finite sign' m' e' hm' ∧
        sum = UnpackedFloat.normalize Format.binary64 mantissa (min e e') .positive := by
  intro sum
  cases u with
  | notANumber => exact .inl rfl
  | infinity sign =>
    cases v with
    | notANumber => exact .inl rfl
    | infinity sign' => cases sign <;> cases sign' <;> simp [sum, UnpackedFloat.add]
    | zero sign' => exact .inr (.inl ⟨sign, rfl⟩)
    | finite sign' m' e' hm' => exact .inr (.inl ⟨sign, rfl⟩)
  | zero sign =>
    cases v with
    | notANumber => exact .inl rfl
    | infinity sign' => exact .inr (.inl ⟨sign', rfl⟩)
    | zero sign' => cases sign <;> cases sign' <;> simp [sum, UnpackedFloat.add]
    | finite sign' m' e' hm' => exact .inr (.inr (.inr (.inr (.inl ⟨sign', m', e', hm', rfl, rfl⟩))))
  | finite sign m e hm =>
    cases v with
    | notANumber => exact .inl rfl
    | infinity sign' => exact .inr (.inl ⟨sign', rfl⟩)
    | zero sign' => exact .inr (.inr (.inr (.inl rfl)))
    | finite sign' m' e' hm' =>
      exact .inr (.inr (.inr (.inr (.inr
        ⟨sign, m, e, hm, sign', m', e', hm', _, rfl, rfl, rfl⟩))))

/-- A sum is the negative zero only if all its parts are. -/
theorem add_ne_negativeZero {x : Float} (h : x ≠ negativeZero) (y : Float) :
    x + y ≠ negativeZero := by
  intro heq
  have hbits : negativeZero.toBits.toBitVec = packedZero Format.binary64 .negative := by
    decide
  have hpack : UnpackedFloat.pack Format.binary64
      (UnpackedFloat.add Format.binary64 x.toModel.unpack y.toModel.unpack) =
        packedZero Format.binary64 .negative := by
    rw [← hbits, ← heq]
    rfl
  rw [Ne, eq_negativeZero_iff] at h
  rcases add_cases x.toModel.unpack y.toModel.unpack with hsum | ⟨sign, hsum⟩ | hsum | hsum |
    ⟨sign, m, e, hm, hy, hsum⟩ | ⟨sign, m, e, hm, sign', m', e', hm', mantissa, hx, hy, hsum⟩
  all_goals rw [hsum] at hpack
  · exact pack_notANumber_ne_packedZero .negative hpack
  · exact pack_infinity_ne_packedZero sign .negative hpack
  · exact absurd hpack (by decide)
  · exact h (unpack_of_pack_eq hpack)
  · cases hy.symm.trans (unpack_of_pack_eq hpack)
  · have hgrid : -1074 ≤ min e e' := le_min (exponent_of_unpack hx) (exponent_of_unpack hy)
    exact pack_normalize_ne_packedZero mantissa hgrid hpack

/-- A sum from the left that starts with the usual zero is never the negative one. -/
theorem sum_ne_negativeZero (l : List Float) : Scalar.sum l ≠ negativeZero := by
  suffices ∀ start : Float, start ≠ negativeZero → l.foldl (· + ·) start ≠ negativeZero by
    exact this Scalar.zero (by decide)
  induction l with
  | nil => exact fun _ hstart => hstart
  | cons x rest ih => exact fun start hstart => ih (start + x) (add_ne_negativeZero hstart x)

/-- A sum may start with either zero, unless nothing is added or the negative zero comes first. -/
theorem foldl_negativeZero {x : Float} (hx : x ≠ negativeZero) (rest : List Float) :
    (x :: rest).foldl (· + ·) negativeZero = Scalar.sum (x :: rest) := by
  unfold Scalar.sum
  rw [List.foldl_cons, List.foldl_cons, negativeZero_add, zero_add_of_ne hx]

/-! ## Finite sums and products -/

theorem isFinite_eq (x : Float) : x.isFinite = x.toModel.unpack.isFinite := rfl

theorem isFinite_zero : (Scalar.zero : Float).isFinite = true := by decide

theorem isFinite_of_pack {u : UnpackedFloat}
    (h : (UnpackedFloat.unpack Format.binary64 (UnpackedFloat.pack Format.binary64 u)).isFinite =
      true) : u ≠ .notANumber ∧ ∀ sign, u ≠ .infinity sign := by
  constructor
  · rintro rfl
    exact absurd h (by decide)
  · rintro sign rfl
    cases sign <;> exact absurd h (by decide)

theorem add_of_not_isFinite {u v : UnpackedFloat} (h : u.isFinite = false ∨ v.isFinite = false) :
    UnpackedFloat.add Format.binary64 u v = .notANumber ∨
      ∃ sign, UnpackedFloat.add Format.binary64 u v = .infinity sign := by
  cases u <;> cases v <;> simp_all [UnpackedFloat.add, UnpackedFloat.isFinite]
  -- Two infinities add up to one of them, or to no number where their signs differ.
  split <;> simp_all

theorem mul_of_not_isFinite {u v : UnpackedFloat} (h : u.isFinite = false ∨ v.isFinite = false) :
    UnpackedFloat.mul Format.binary64 u v = .notANumber ∨
      ∃ sign, UnpackedFloat.mul Format.binary64 u v = .infinity sign := by
  cases u <;> cases v <;> simp_all [UnpackedFloat.mul, UnpackedFloat.isFinite]

/-- What an operation makes of two doubles is finite only if both of them are, if that holds of the
operation before its result is packed. -/
theorem isFinite_of_operation {operation : UnpackedFloat → UnpackedFloat → UnpackedFloat} {x y : Float}
    (hspecial : ∀ u v : UnpackedFloat, u.isFinite = false ∨ v.isFinite = false →
      operation u v = .notANumber ∨ ∃ sign, operation u v = .infinity sign)
    (h : (UnpackedFloat.unpack Format.binary64 (UnpackedFloat.pack Format.binary64
      (operation x.toModel.unpack y.toModel.unpack))).isFinite = true) :
    x.isFinite = true ∧ y.isFinite = true := by
  obtain ⟨hnumber, hfinite⟩ := isFinite_of_pack h
  by_contra hnot
  rw [isFinite_eq x, isFinite_eq y, not_and_or, Bool.not_eq_true, Bool.not_eq_true] at hnot
  rcases hspecial _ _ hnot with heq | ⟨sign, heq⟩
  · exact hnumber heq
  · exact hfinite sign heq

/-- A sum is finite only if both of its parts are. -/
theorem isFinite_of_add {x y : Float} (h : (x + y).isFinite = true) :
    x.isFinite = true ∧ y.isFinite = true :=
  isFinite_of_operation (fun _ _ => add_of_not_isFinite) h

/-- A product is finite only if both of its factors are. -/
theorem isFinite_of_mul {x y : Float} (h : (x * y).isFinite = true) :
    x.isFinite = true ∧ y.isFinite = true :=
  isFinite_of_operation (fun _ _ => mul_of_not_isFinite) h

theorem isFinite_of_sum {l : List Float} (h : (Scalar.sum l).isFinite = true) :
    ∀ x ∈ l, x.isFinite = true := by
  suffices ∀ start : Float, (l.foldl (· + ·) start).isFinite = true →
      start.isFinite = true ∧ ∀ x ∈ l, x.isFinite = true from (this _ h).2
  clear h
  induction l with
  | nil => exact fun start h => ⟨h, fun x hx => by cases hx⟩
  | cons x rest ih =>
    intro start h
    obtain ⟨hstart, hrest⟩ := ih (start + x) h
    obtain ⟨hstart, hx⟩ := isFinite_of_add hstart
    exact ⟨hstart, List.forall_mem_cons.mpr ⟨hx, hrest⟩⟩

end Chargeback.Number
