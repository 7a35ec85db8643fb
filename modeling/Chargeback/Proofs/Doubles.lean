import Chargeback.Proofs.Numerals
import Chargeback.Scalar

/-!
# Quotients are rounded to doubles

Rounding finds the exponent of a quotient first, and then the nearest mantissa in units of the last
place. So the bits of a quotient follow from its size and from the mantissa next to it. Overflow begins
half a step above the largest double: every quotient below that end rounds to a finite double. Quotients
are compared as rational numbers here, since the powers in them go both ways.
-/

namespace Chargeback.Number

/-! ## Quotients of powers -/

/-- A power of a natural number is the quotient that computations keep it as. -/
theorem zpow_eq_div {b : ℕ} (hb : 0 < b) (e : ℤ) :
    (b : ℚ) ^ e = ((b ^ e.toNat : ℕ) : ℚ) / ((b ^ (-e).toNat : ℕ) : ℚ) := by
  have hb' : (b : ℚ) ≠ 0 := by positivity
  rw [Nat.cast_pow, Nat.cast_pow, ← zpow_natCast, ← zpow_natCast, ← zpow_sub₀ hb']
  congr 1
  omega

/-- The quotient of two numbers is compared with a power without division. -/
theorem div_lt_zpow_iff {b den : ℕ} (hb : 0 < b) (num : ℕ) (hden : 0 < den) (e : ℤ) :
    (num : ℚ) / den < (b : ℚ) ^ e ↔ num * b ^ (-e).toNat < den * b ^ e.toNat := by
  rw [zpow_eq_div hb, div_lt_div_iff₀ (by positivity) (by positivity)]
  norm_cast
  rw [Nat.mul_comm (b ^ e.toNat)]

/-- A quotient times a power is the quotient that computations keep it as. -/
theorem div_mul_zpow {b : ℕ} (hb : 0 < b) (num den : ℕ) (e : ℤ) :
    (num : ℚ) / den * (b : ℚ) ^ e =
      ((num * b ^ e.toNat : ℕ) : ℚ) / ((den * b ^ (-e).toNat : ℕ) : ℚ) := by
  rw [zpow_eq_div hb, div_mul_div_comm, Nat.cast_mul, Nat.cast_mul]

/-! ## Rounding to bits -/

theorem two_pow_log2_le {n : ℕ} (hn : 0 < n) : (2 : ℚ) ^ (n.log2 : ℤ) ≤ n := by
  rw [zpow_natCast]
  exact_mod_cast Nat.log2_self_le hn.ne'

theorem lt_two_pow_log2 (n : ℕ) : (n : ℚ) < 2 ^ ((n.log2 : ℤ) + 1) := by
  have h : (n.log2 : ℤ) + 1 = ((n.log2 + 1 : ℕ) : ℤ) := by push_cast; rfl
  rw [h, zpow_natCast]
  exact_mod_cast Nat.lt_log2_self

theorem floorLog2_bounds {num den : ℕ} (hnum : 0 < num) (hden : 0 < den) :
    (2 : ℚ) ^ floorLog2 num den ≤ (num : ℚ) / den ∧
      (num : ℚ) / den < 2 ^ (floorLog2 num den + 1) := by
  have hpos : (0 : ℚ) < den := by positivity
  have hupper : (num : ℚ) / den < 2 ^ ((num.log2 : ℤ) - den.log2 + 1) := by
    rw [div_lt_iff₀ hpos]
    calc (num : ℚ) < 2 ^ ((num.log2 : ℤ) + 1) := lt_two_pow_log2 num
      _ = 2 ^ ((num.log2 : ℤ) - den.log2 + 1) * 2 ^ (den.log2 : ℤ) := by
        rw [← zpow_add₀ two_ne_zero]
        congr 1
        ring
      _ ≤ 2 ^ ((num.log2 : ℤ) - den.log2 + 1) * den := by
        gcongr
        exact two_pow_log2_le hden
  have hlower : (2 : ℚ) ^ ((num.log2 : ℤ) - den.log2 - 1) ≤ (num : ℚ) / den := by
    rw [le_div_iff₀ hpos]
    calc
      (2 : ℚ) ^ ((num.log2 : ℤ) - den.log2 - 1) * den
        ≤ 2 ^ ((num.log2 : ℤ) - den.log2 - 1) * 2 ^ ((den.log2 : ℤ) + 1) := by
        gcongr
        exact (lt_two_pow_log2 den).le
      _ = 2 ^ (num.log2 : ℤ) := by
        rw [← zpow_add₀ two_ne_zero]
        congr 1
        ring
      _ ≤ num := two_pow_log2_le hnum
  have hbelow := div_lt_zpow_iff two_pos num hden ((num.log2 : ℤ) - den.log2)
  rw [floorLog2]
  simp only [Nat.pow_eq]
  split
  · rename_i h
    exact ⟨hlower, by simpa using hbelow.mpr h⟩
  · rename_i h
    exact ⟨not_lt.mp fun hlt => h (hbelow.mp (by simpa using hlt)), hupper⟩

/-! ## The nearest whole number -/

/-- A whole number is at most half away from a number, and if it is odd, less than half. -/
structure IsNearest (k : ℕ) (x : ℚ) : Prop where
  low : (k : ℚ) - 1 / 2 ≤ x
  high : x ≤ k + 1 / 2
  odd : k % 2 = 1 → (k : ℚ) - 1 / 2 < x ∧ x < k + 1 / 2

/-- Of two neighbours one is odd, and then the number is less than half away from it. -/
theorem IsNearest.not_succ {k : ℕ} {x : ℚ} (h : IsNearest k x) : ¬IsNearest (k + 1) x := by
  intro hnext
  have hlow := hnext.low
  push_cast at hlow
  rcases Nat.mod_two_eq_zero_or_one k with heven | hodd
  · have hstrict := (hnext.odd (by omega)).1
    push_cast at hstrict
    linarith [h.high]
  · linarith [(h.odd hodd).2]

theorem IsNearest.unique {j k : ℕ} {x : ℚ} (hj : IsNearest j x) (hk : IsNearest k x) : j = k := by
  have hjk : (j : ℚ) ≤ (k + 1 : ℕ) := by
    push_cast
    linarith [hj.low, hk.high]
  have hkj : (k : ℚ) ≤ (j + 1 : ℕ) := by
    push_cast
    linarith [hk.low, hj.high]
  rw [Nat.cast_le] at hjk hkj
  rcases (by omega : j = k ∨ j = k + 1 ∨ k = j + 1) with heq | rfl | rfl
  · exact heq
  · exact absurd hj hk.not_succ
  · exact absurd hk hj.not_succ

theorem isNearest_roundHalfEven (num : ℕ) {den : ℕ} (hden : 0 < den) :
    IsNearest (roundHalfEven num den) (num / den) := by
  have hpos : (0 : ℚ) < den := by positivity
  have hsplit : (num : ℚ) / den = (num / den : ℕ) + (num % den : ℕ) / den := by
    rw [div_eq_iff hpos.ne', add_mul, div_mul_cancel₀ _ hpos.ne']
    exact_mod_cast (Nat.div_add_mod' num den).symm
  have hnonneg : (0 : ℚ) ≤ (num % den : ℕ) / den := by positivity
  have hlt : ((num % den : ℕ) : ℚ) / den < 1 := by
    rw [div_lt_one hpos]
    exact_mod_cast Nat.mod_lt num hden
  have hbelow : 2 * (num % den) < den → ((num % den : ℕ) : ℚ) / den < 1 / 2 := by
    intro h
    rw [div_lt_div_iff₀ hpos two_pos, one_mul, mul_comm]
    exact_mod_cast h
  have habove : den < 2 * (num % den) → 1 / 2 < ((num % den : ℕ) : ℚ) / den := by
    intro h
    rw [div_lt_div_iff₀ two_pos hpos, one_mul, mul_comm]
    exact_mod_cast h
  have hhalf : 2 * (num % den) = den → ((num % den : ℕ) : ℚ) / den = 1 / 2 := by
    intro h
    rw [div_eq_div_iff hpos.ne' two_ne_zero, one_mul, mul_comm]
    exact_mod_cast h
  rw [hsplit]
  unfold roundHalfEven
  generalize ((num % den : ℕ) : ℚ) / den = t at *
  generalize num / den = q
  generalize num % den = r at *
  dsimp only
  split
  · rename_i h
    have h := hbelow h
    exact ⟨by linarith, by linarith, fun _ => ⟨by linarith, by linarith⟩⟩
  split
  · rename_i h
    have h := habove h
    have hnext : ((q + 1 : ℕ) : ℚ) = q + 1 := Nat.cast_succ q
    exact ⟨by linarith, by linarith, fun _ => ⟨by linarith, by linarith⟩⟩
  · have heven : (q + q % 2) % 2 = 0 := by omega
    have hmost : ((q % 2 : ℕ) : ℚ) ≤ 1 := by exact_mod_cast (by omega : q % 2 ≤ 1)
    rw [hhalf (by omega)]
    refine ⟨?_, ?_, fun hodd => by omega⟩
    · push_cast at hmost ⊢
      linarith
    · have hleast : (0 : ℚ) ≤ (q % 2 : ℕ) := by positivity
      push_cast at hleast ⊢
      linarith

theorem roundHalfEven_eq {num den k : ℕ} (hden : 0 < den) (h : IsNearest k (num / den)) :
    roundHalfEven num den = k :=
  (isNearest_roundHalfEven num hden).unique h

/-! ## Rounding to known bits -/

/-- The mantissa that a quotient is rounded to in units of a power of two. -/
theorem roundHalfEven_scaled_eq {num den k : ℕ} (hden : 0 < den) {e : ℤ} {x : ℚ}
    (hx : (num : ℚ) / den = x * 2 ^ e) (h : IsNearest k x) :
    roundHalfEven (num * 2 ^ (-e).toNat) (den * 2 ^ e.toNat) = k := by
  have hscaled := div_mul_zpow two_pos num den (-e)
  rw [hx, neg_neg, Nat.cast_ofNat, mul_assoc, ← zpow_add₀ two_ne_zero, add_neg_cancel, zpow_zero,
    mul_one] at hscaled
  rw [hscaled] at h
  exact roundHalfEven_eq (by positivity) h

/-- The bits of a double without its sign. -/
def magnitudeBits (mantissa : ℕ) (exponent : ℤ) : ℕ := (exponent + 1074).toNat * 2 ^ 52 + mantissa

/-- A quotient has the exponent for which it has 53 bits in front of the point, or else the least one. -/
theorem exponent_eq {num den : ℕ} {e : ℤ} {y : ℚ} (hnum : 0 < num) (hden : 0 < den)
    (hy : (num : ℚ) / den = y * 2 ^ e) (hleast : -1074 ≤ e) (hlow : e = -1074 ∨ (2 : ℚ) ^ 52 ≤ y)
    (hhigh : y < 2 ^ 53) : max (floorLog2 num den - 52) (-1074) = e := by
  have hunit : (0 : ℚ) < 2 ^ e := by positivity
  obtain ⟨hlower, hupper⟩ := floorLog2_bounds hnum hden
  have hbelow : (2 : ℚ) ^ floorLog2 num den < 2 ^ (53 + e) := by
    calc (2 : ℚ) ^ floorLog2 num den ≤ y * 2 ^ e := hy ▸ hlower
      _ < 2 ^ 53 * 2 ^ e := mul_lt_mul_of_pos_right hhigh hunit
      _ = 2 ^ (53 + e) := by rw [zpow_add₀ two_ne_zero]; rfl
  rw [zpow_lt_zpow_iff_right₀ one_lt_two] at hbelow
  rcases hlow with rfl | hlow
  · omega
  · have habove : (2 : ℚ) ^ (52 + e) < 2 ^ (floorLog2 num den + 1) := by
      calc (2 : ℚ) ^ (52 + e) = 2 ^ 52 * 2 ^ e := by rw [zpow_add₀ two_ne_zero]; rfl
        _ ≤ y * 2 ^ e := mul_le_mul_of_nonneg_right hlow hunit.le
        _ < 2 ^ (floorLog2 num den + 1) := hy ▸ hupper
    rw [zpow_lt_zpow_iff_right₀ one_lt_two] at habove
    omega

/-- The bits of a quotient, from its size and its nearest mantissa in units of its last place. -/
theorem nearestBits_eq {num den k : ℕ} {e : ℤ} {y : ℚ} (hden : 0 < den)
    (hy : (num : ℚ) / den = y * 2 ^ e) (hpos : 0 < y) (hleast : -1074 ≤ e)
    (hlow : e = -1074 ∨ (2 : ℚ) ^ 52 ≤ y) (hhigh : y < 2 ^ 53) (hnear : IsNearest k y)
    (hfinite : magnitudeBits k e < 2047 * 2 ^ 52) : nearestBits num den = magnitudeBits k e := by
  have hnum : 0 < num := by
    have hquotient : 0 < (num : ℚ) / den := hy ▸ mul_pos hpos (by positivity)
    rw [Nat.pos_iff_ne_zero]
    rintro rfl
    simp at hquotient
  have hinfinity : infinityBits = 2047 * 2 ^ 52 := rfl
  rw [nearestBits, if_neg hnum.ne']
  simp only [Nat.pow_eq, fractionBits, leastExponent, Nat.cast_ofNat, sub_neg_eq_add,
    exponent_eq hnum hden hy hleast hlow hhigh, roundHalfEven_scaled_eq hden hy hnear]
  rw [magnitudeBits] at hfinite ⊢
  exact min_eq_left (by omega)

/-! ## Overflow -/

/-- Where overflow begins: half a step above the largest double. -/
def overflow : ℚ := (2 ^ 54 - 1) * 2 ^ (970 : ℤ)

theorem overflow_lt : overflow < 2 ^ (1024 : ℤ) := by
  have hsplit : (2 : ℚ) ^ (1024 : ℤ) = 2 ^ 54 * 2 ^ (970 : ℤ) := by
    rw [← zpow_natCast, ← zpow_add₀ two_ne_zero]
    rfl
  rw [overflow, hsplit]
  gcongr
  norm_num

/-- Overflow begins far above the whole numbers of 64 bits. -/
theorem two_pow_lt_overflow : (2 : ℚ) ^ 64 < overflow := by
  calc (2 : ℚ) ^ 64 = 2 ^ (64 : ℤ) := (zpow_natCast 2 64).symm
    _ ≤ 2 ^ (970 : ℤ) := zpow_le_zpow_right₀ one_le_two (by decide)
    _ < (2 ^ 54 - 1) * 2 ^ (970 : ℤ) := lt_mul_of_one_lt_left (by positivity) (by norm_num)

/-- In units of the topmost exponent, the overflow begins half a unit below `2 ^ 53`. -/
theorem overflow_mul_zpow : overflow * 2 ^ (-971 : ℤ) = 2 ^ 53 - 1 / 2 := by
  rw [overflow, mul_assoc, ← zpow_add₀ two_ne_zero]
  norm_num

/-- The mantissa that a quotient is rounded to in units of a power of two. -/
theorem roundHalfEven_scaled_le (num : ℕ) {den : ℕ} (hden : 0 < den) (e : ℤ) :
    (roundHalfEven (num * 2 ^ (-e).toNat) (den * 2 ^ e.toNat) : ℚ) ≤
      (num : ℚ) / den * 2 ^ (-e) + 1 / 2 := by
  have hquotient := div_mul_zpow two_pos num den (-e)
  rw [neg_neg, Nat.cast_ofNat] at hquotient
  rw [hquotient]
  exact sub_le_iff_le_add.mp (isNearest_roundHalfEven _ (by positivity)).low

/-- A quotient below the overflow rounds to the bits of a finite double. -/
theorem nearestBits_lt_infinityBits {num den : ℕ} (hden : 0 < den)
    (h : (num : ℚ) / den < overflow) : nearestBits num den < infinityBits := by
  rw [nearestBits]
  split
  · decide
  · rename_i hnum
    obtain ⟨hlower, hupper⟩ := floorLog2_bounds (Nat.pos_of_ne_zero hnum) hden
    simp only [Nat.pow_eq, fractionBits, leastExponent]
    generalize he : max (floorLog2 num den - (52 : ℕ)) (-1074) = e
    generalize hm : roundHalfEven (num * 2 ^ (-e).toNat) (den * 2 ^ e.toNat) = m
    have hlog : floorLog2 num den < 1024 := by
      rw [← zpow_lt_zpow_iff_right₀ (one_lt_two (α := ℚ))]
      calc (2 : ℚ) ^ floorLog2 num den ≤ (num : ℚ) / den := hlower
        _ < overflow := h
        _ < 2 ^ (1024 : ℤ) := overflow_lt
    have hround : (m : ℚ) ≤ (num : ℚ) / den * 2 ^ (-e) + 1 / 2 :=
      hm ▸ roundHalfEven_scaled_le num hden e
    -- The topmost exponent is reached only where the mantissa stays below `2 ^ 53`.
    have hbits : (e + 1074).toNat * 2 ^ 52 + m < 2047 * 2 ^ 52 := by
      rcases lt_or_eq_of_le (show e ≤ 971 by omega) with hlt | rfl
      · have hmantissa : (m : ℚ) < 2 ^ 53 + 1 := by
          have hscaled : (num : ℚ) / den * 2 ^ (-e) < 2 ^ (53 : ℤ) := by
            calc (num : ℚ) / den * 2 ^ (-e)
                < 2 ^ (floorLog2 num den + 1) * 2 ^ (-e) := by gcongr
              _ = 2 ^ (floorLog2 num den + 1 - e) := by rw [← zpow_add₀ two_ne_zero]; rfl
              _ ≤ 2 ^ (53 : ℤ) := zpow_le_zpow_right₀ one_le_two (by omega)
          have hpower : (2 : ℚ) ^ (53 : ℤ) = 2 ^ 53 := by norm_num
          linarith
        have hmantissa : m < 2 ^ 53 + 1 := by exact_mod_cast hmantissa
        omega
      · have hmantissa : (m : ℚ) < 2 ^ 53 := by
          have hscaled : (num : ℚ) / den * 2 ^ (-971 : ℤ) < 2 ^ 53 - 1 / 2 := by
            rw [← overflow_mul_zpow]
            gcongr
          linarith
        have hmantissa : m < 2 ^ 53 := by exact_mod_cast hmantissa
        omega
    have hinfinity : infinityBits = 2047 * 2 ^ 52 := rfl
    omega

open Float.Model in
/-- Bits without the topmost exponent are those of a finite double. -/
theorem isFinite_ofBits {bits : UInt64} (h : bits.toNat / 2 ^ 52 % 2048 ≠ 2047) :
    (Float.ofBits bits).isFinite = true := by
  have hexponent : @UnpackedFloat.unpackExponent Format.binary64 bits.toBitVec ≠ -1#11 := by
    intro heq
    rw [UnpackedFloat.unpackExponent_def] at heq
    have hfield := congrArg BitVec.toNat heq
    rw [BitVec.extractLsb'_toNat, Nat.shiftRight_eq_div_pow] at hfield
    exact h hfield
  have hvalid : Format.binary64.Valid bits.toBitVec := ⟨fun heq => absurd heq hexponent⟩
  have hpack := UnpackedFloat.pack_unpack_of_valid hvalid
  have hunpack : (Float.ofBits bits).isFinite =
      (UnpackedFloat.unpack Format.binary64 bits.toBitVec).isFinite := by
    conv_rhs => rw [← hpack]
    rfl
  rw [hunpack, UnpackedFloat.unpack]
  simp only [hexponent, if_false]
  split
  · split
    · rfl
    · rfl
  · rfl

/-- A quotient below the overflow is rounded to a finite double. -/
theorem isFinite_nearest (negative : Bool) {num den : ℕ} (hden : 0 < den)
    (h : (num : ℚ) / den < overflow) : (nearest negative num den).isFinite = true := by
  have hbits := nearestBits_lt_infinityBits hden h
  have hinfinity : infinityBits = 2047 * 2 ^ 52 := rfl
  apply isFinite_ofBits
  rw [UInt64.toNat_ofNat', Nat.pow_eq]
  cases negative with
  | false =>
    simp only [Bool.false_eq_true, if_false]
    omega
  | true =>
    simp only [if_true]
    omega

/-- A number that a text spells is finite. -/
theorem isFinite_of_parse? {text : String} {x : Float} (h : Scalar.parse? text = some x) :
    x.isFinite = true := by
  unfold Scalar.parse? at h
  split at h
  · simp only [Option.ite_none_right_eq_some, Option.some.injEq] at h
    obtain ⟨hfinite, rfl⟩ := h
    exact hfinite
  · cases h

end Chargeback.Number
