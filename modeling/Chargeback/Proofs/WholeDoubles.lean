import Chargeback.Proofs.Comparisons
import Chargeback.Proofs.ShortestDoubles

/-!
# Which doubles are written as whole numbers

A double is written as a whole number if it is finite, has no fraction and stays below a limit, and what
is written then is its conversion into a whole number of 64 bits. The parts that a double is taken apart
into settle all of this: the conversion cuts off the fraction, of which there is none, and its bounds lie
far beyond the limit. So the whole number is exactly the double.
-/

namespace Chargeback.Number

open Float.Model Float.Model.UnpackedFloat

/-! ## The parts of a double in its arithmetic -/

/-- The sign of a part that says whether it is negative. -/
def signOf (negative : Bool) : Sign := if negative then .negative else .positive

variable {x : Float} {negative : Bool} {mantissa : ℕ} {e : ℤ}

theorem ofBitVec_unpackSign (bits : UInt64) :
    Sign.ofBitVec (@unpackSign Format.binary64 bits.toBitVec) =
      signOf (decide (bits.toNat / 2 ^ 63 % 2 = 1)) := by
  have hvalue : (@unpackSign Format.binary64 bits.toBitVec).toNat = bits.toNat / 2 ^ 63 % 2 := by
    rw [unpackSign_def, BitVec.extractLsb'_toNat, Nat.shiftRight_eq_div_pow]
    rfl
  rw [← hvalue]
  rcases BitVec.eq_zero_or_eq_one (@unpackSign Format.binary64 bits.toBitVec) with hbit | hbit
  · rw [hbit]
    rfl
  · rw [hbit]
    rfl

/-- The arithmetic of doubles sees the same parts, but for a zero, which has no mantissa there. -/
theorem unpack_of_ofFloat (h : Double.ofFloat x = .finite negative mantissa e) :
    x.toModel.unpack = if hpos : 0 < mantissa then .finite (signOf negative) mantissa e hpos
      else .zero (signOf negative) := by
  have hpower : Nat.pow 2 fractionBits = 2 ^ 52 := rfl
  have htop : Nat.pow 2 63 = 2 ^ 63 := rfl
  have hleast : leastExponent = -1074 := rfl
  have hbias : (Format.binary64.exponentBias : ℤ) + Format.binary64.mantissaBitsWithoutImplicit =
      1075 := rfl
  have hexponent : (@unpackExponent Format.binary64 x.toBits.toBitVec).toNat =
      x.toBits.toNat / 2 ^ 52 % 2048 := by
    rw [unpackExponent_def, BitVec.extractLsb'_toNat, Nat.shiftRight_eq_div_pow]
    rfl
  have hfraction : (@unpackMantissa Format.binary64 x.toBits.toBitVec).toNat =
      x.toBits.toNat % 2 ^ 52 := by
    rw [unpackMantissa_def, BitVec.extractLsb'_toNat, Nat.shiftRight_eq_div_pow]
    simp
  unfold Double.ofFloat Double.ofBits at h
  simp only [hpower, htop, ← hexponent, ← hfraction] at h
  change UnpackedFloat.unpack Format.binary64 x.toBits.toBitVec = _
  rw [UnpackedFloat.unpack]
  simp only [ofBitVec_unpackSign x.toBits, hbias]
  -- Both ways to take a double apart ask whether the biased exponent is the largest, or else zero.
  split at h
  · split at h <;> cases h
  rename_i hfinite
  rw [if_neg fun heq => hfinite (congrArg BitVec.toNat heq)]
  split at h
  · rename_i hzero
    obtain ⟨rfl, rfl, rfl⟩ := Double.finite.inj h
    rw [if_pos (BitVec.eq_of_toNat_eq hzero)]
    by_cases hnone : @unpackMantissa Format.binary64 x.toBits.toBitVec = 0#52
    · rw [dif_pos hnone, dif_neg]
      rw [hnone]
      decide
    · rw [dif_neg hnone, dif_pos]
      · congr 1
        omega
      · exact Nat.pos_of_ne_zero fun h => hnone (BitVec.eq_of_toNat_eq h)
  · rename_i hnonzero
    obtain ⟨rfl, rfl, rfl⟩ := Double.finite.inj h
    rw [if_neg fun heq => hnonzero (congrArg BitVec.toNat heq), dif_pos (by omega)]
    congr 1
    · rw [BitVec.toNat_append, ← Nat.shiftLeft_add_eq_or_of_lt (BitVec.isLt _), Nat.add_comm]
      rfl
    · omega

theorem unpack_abs (x : Float) : x.abs.toModel.unpack = x.toModel.unpack.abs := by
  obtain ⟨b, hb⟩ : ∃ b, b = @packComponents Format.binary64 .positive
    (unpackExponent x.toBits.toBitVec) (unpackMantissa x.toBits.toBitVec) := ⟨_, rfl⟩
  have hunpack : UnpackedFloat.unpack Format.binary64 b = x.toModel.unpack.abs := by
    change _ = (UnpackedFloat.unpack Format.binary64 x.toBits.toBitVec).abs
    rw [hb, UnpackedFloat.unpack, UnpackedFloat.unpack]
    simp only [unpackExponent_packComponents, unpackMantissa_packComponents, unpackSign_packComponents]
    split
    · split <;> rfl
    split
    · split <;> rfl
    · rfl
  have hvalid : Format.binary64.Valid b := by
    refine ⟨fun htop hrest => ?_⟩
    rw [hb, unpackExponent_packComponents] at htop
    rw [hb, unpackMantissa_packComponents] at hrest
    have hnan : x.toBits.toBitVec = packedNaN Format.binary64 :=
      x.toModel.valid.eq_packedNaN htop hrest
    rw [hb, hnan]
    decide
  change UnpackedFloat.unpack Format.binary64
    (UnpackedFloat.pack Format.binary64 x.toModel.unpack.abs) = _
  rw [← hunpack, pack_unpack_of_valid hvalid]

/-! ## Fractions and magnitudes -/

/-- The magnitude of `± mantissa * 2 ^ e` without its fraction. -/
def Double.wholePart (mantissa : ℕ) (e : ℤ) : ℕ :=
  (Double.quotient mantissa e).1 / (Double.quotient mantissa e).2

/-- The exact value of a finite double. -/
def exactValue (x : Float) : ℚ :=
  match Double.ofFloat x with
  | .finite negative mantissa e => if negative then -(mantissa * 2 ^ e) else mantissa * 2 ^ e
  | _ => 0

theorem fract_exactValue_eq_zero_iff (h : Double.ofFloat x = .finite negative mantissa e) :
    Int.fract (exactValue x) = 0 ↔
      (Double.quotient mantissa e).1 % (Double.quotient mantissa e).2 = 0 := by
  have hden : ((Double.quotient mantissa e).2 : ℚ) ≠ 0 := by
    simp [Double.quotient]
  have hsign : Int.fract (exactValue x) = 0 ↔ Int.fract (mantissa * 2 ^ e : ℚ) = 0 := by
    rw [exactValue, h]
    cases negative with
    | true => exact Int.fract_neg_eq_zero
    | false => rfl
  rw [hsign, ← quotient_eq, Int.fract_div_natCast_eq_div_natCast_mod, div_eq_zero_iff,
    or_iff_left hden, Nat.cast_eq_zero]

/-- Without a fraction the whole part is the exact magnitude. -/
theorem cast_wholePart
    (h : (Double.quotient mantissa e).1 % (Double.quotient mantissa e).2 = 0) :
    (Double.wholePart mantissa e : ℚ) = mantissa * 2 ^ e := by
  have hden : ((Double.quotient mantissa e).2 : ℚ) ≠ 0 := by
    simp [Double.quotient]
  rw [Double.wholePart, Nat.cast_div (Nat.dvd_of_mod_eq_zero h) hden, quotient_eq]

/-- The limit for whole numbers is `8 * 10 ^ 15` units of `2 ^ (-3)`, and doubles around it have this
unit. -/
theorem wholePart_lt_iff (hheld : Double.IsHeld mantissa e) :
    Double.wholePart mantissa e < Scalar.wholeLimit ↔
      e < -3 ∨ e = -3 ∧ mantissa < 8 * Scalar.wholeLimit := by
  obtain ⟨hmantissa, -, -, hleading⟩ := hheld
  have hlimit : Scalar.wholeLimit = 10 ^ 15 := rfl
  simp only [Double.wholePart, Double.quotient, Nat.pow_eq, hlimit]
  rcases lt_trichotomy e (-3) with hlt | rfl | hgt
  · refine iff_of_true ?_ (.inl hlt)
    have hpower : 2 ^ 4 ≤ 2 ^ (-e).toNat := Nat.pow_le_pow_right two_pos (by omega)
    rw [show e.toNat = 0 by omega, pow_zero, mul_one]
    calc mantissa / 2 ^ (-e).toNat ≤ mantissa / 2 ^ 4 := Nat.div_le_div_left hpower (by norm_num)
      _ < 10 ^ 15 := by omega
  · rw [show (-3 : ℤ).toNat = 0 from rfl, show (-(-3 : ℤ)).toNat = 3 from rfl]
    omega
  · refine iff_of_false (not_lt.mpr ?_) (by omega)
    have hlead : 2 ^ 52 ≤ mantissa := hleading.resolve_left (by omega)
    have hpower : 2 ^ (-e).toNat ≤ 2 ^ 2 := Nat.pow_le_pow_right two_pos (by omega)
    rw [Nat.le_div_iff_mul_le (by positivity)]
    calc 10 ^ 15 * 2 ^ (-e).toNat ≤ 10 ^ 15 * 2 ^ 2 := Nat.mul_le_mul_left _ hpower
      _ ≤ mantissa := by omega
      _ ≤ mantissa * 2 ^ e.toNat := Nat.le_mul_of_pos_right _ (by positivity)

/-- The comparison of a magnitude with the limit is exact. -/
theorem abs_lt_iff (h : Double.ofFloat x = .finite negative mantissa e) :
    x.abs < 1e15 ↔ Double.wholePart mantissa e < Scalar.wholeLimit := by
  have hless : x.abs < 1e15 ↔ order? x.abs 1e15 = some .lt := by
    rw [← beq_iff_eq, ← less_eq_order?]
    exact decide_eq_true_iff.symm
  have hlimit : (1e15 : Float).toModel.unpack =
      .finite .positive (8 * Scalar.wholeLimit) (-3) (by decide) := rfl
  rw [hless, order?, unpack_abs, hlimit, unpack_of_ofFloat h]
  by_cases hpos : 0 < mantissa
  · rw [dif_pos hpos, wholePart_lt_iff (Double.ofBits_magnitudeBits h).1]
    change some ((compare e (-3)).then (compare mantissa (8 * Scalar.wholeLimit))) = some .lt ↔ _
    rw [Option.some.injEq, Ordering.then_eq_lt, compare_lt_iff_lt, compare_eq_iff_eq, compare_lt_iff_lt]
  · rw [dif_neg hpos, Nat.eq_zero_of_not_pos hpos]
    refine iff_of_true rfl ?_
    rw [Double.wholePart, Double.quotient, Nat.zero_mul, Nat.zero_div]
    decide

/-! ## The conversion into 64 bits -/

/-- A conversion into a whole number cuts off the fraction. -/
theorem roundToInt_eq (sign : Sign) (mantissa : ℕ) (e : ℤ) :
    roundToInt sign mantissa e = sign.apply (Double.wholePart mantissa e) := by
  have hshift : (0 - (e - (e - 0).toNat)).toNat = (-e).toNat := by omega
  have hrest : (ExtendedMantissa.ofMantissaAndAccuracy (mantissa <<< (e - 0).toNat) .exact >>>
      (0 - (e - (e - 0).toNat)).toNat).mantissa = Double.wholePart mantissa e := by
    rw [mantissa_shiftRight, mantissa_ofMantissaAndAccuracy, hshift, sub_zero, Nat.shiftLeft_eq]
    rfl
  rw [← hrest]
  rfl

/-- Below the limit no bound of the 64 bits is met. -/
theorem toInt64_eq (h : Double.ofFloat x = .finite negative mantissa e)
    (hlimit : Double.wholePart mantissa e < Scalar.wholeLimit) :
    x.toModel.toInt64.toInt = (signOf negative).apply (Double.wholePart mantissa e) := by
  have hcut : x.toModel.unpack.toInt Int64.minValue.toInt Int64.maxValue.toInt =
      (signOf negative).apply (Double.wholePart mantissa e) := by
    rw [unpack_of_ofFloat h]
    by_cases hpos : 0 < mantissa
    · rw [dif_pos hpos]
      exact roundToInt_eq _ _ _
    · rw [dif_neg hpos, Nat.eq_zero_of_not_pos hpos]
      cases negative <;> simp [Double.wholePart, Double.quotient, toInt, signOf, Sign.apply]
  have hleast : Int64.minValue.toInt = -2 ^ 63 := rfl
  have hmost : Int64.maxValue.toInt = 2 ^ 63 - 1 := rfl
  have hwithin : Scalar.wholeLimit < 2 ^ 63 := by decide
  change (Int64.ofIntClamp (x.toModel.unpack.toInt _ _)).toInt = _
  rw [hcut]
  generalize Double.wholePart mantissa e = n at hlimit
  cases negative with
  | true =>
    change (Int64.ofIntClamp (-(n : ℤ))).toInt = -(n : ℤ)
    exact Int64.toInt_ofIntClamp (by omega) (by omega)
  | false =>
    change (Int64.ofIntClamp (n : ℤ)).toInt = (n : ℤ)
    exact Int64.toInt_ofIntClamp (by omega) (by omega)

/-! ## Whole numbers -/

/-- The test for whole numbers, on the parts of a double. -/
theorem whole?_of_ofFloat (h : Double.ofFloat x = .finite negative mantissa e) :
    Scalar.whole? x =
      if (Double.quotient mantissa e).1 % (Double.quotient mantissa e).2 = 0 ∧
        Double.wholePart mantissa e < Scalar.wholeLimit
      then some ((signOf negative).apply (Double.wholePart mantissa e)) else none := by
  change Scalar.wholeFloat? x = _
  rw [Scalar.wholeFloat?, h]
  cases negative <;> rfl

/-- Written as whole numbers are the finite doubles without a fraction below the limit, and what is
written is their conversion into 64 bits. -/
theorem whole?_eq (x : Float) : Scalar.whole? x =
    if x.isFinite = true ∧ Int.fract (exactValue x) = 0 ∧ x.abs < 1e15
    then some x.toModel.toInt64.toInt else none := by
  by_cases hfinite : x.isFinite = true
  · obtain ⟨negative, mantissa, e, h⟩ := (isFinite_iff x).mp hfinite
    simp only [whole?_of_ofFloat h, hfinite, true_and, abs_lt_iff h, fract_exactValue_eq_zero_iff h]
    split
    · rename_i hwhole
      rw [toInt64_eq h hwhole.2]
    · rfl
  · rw [if_neg fun h => hfinite h.1]
    change Scalar.wholeFloat? x = none
    rw [Scalar.wholeFloat?]
    split
    · rename_i negative mantissa e h
      exact absurd ((isFinite_iff x).mpr ⟨negative, mantissa, e, h⟩) hfinite
    · rfl

end Chargeback.Number
