import Chargeback.Proofs.Doubles

/-!
# The fewest digits of a double read back

The interval of a double holds the numbers that round to it, and to no other double. The decimal that
is written for the double lies in the interval, and one is always found, because the interval is wider
than the last grid that is searched. So the text of a finite double is read as this very double, and a
zero keeps its sign.
-/

namespace Chargeback.Number

/-! ## The interval of a double -/

/-- A mantissa and an exponent that a double can have: the leading bit is missing only at the least
exponent. -/
structure Double.IsHeld (mantissa : ℕ) (exponent : ℤ) : Prop where
  mantissa_lt : mantissa < 2 ^ 53
  least : -1074 ≤ exponent
  most : exponent ≤ 971
  leading : exponent = -1074 ∨ 2 ^ 52 ≤ mantissa

/-- A number lies in a rounding interval, whose unit is a power of two. -/
structure RoundingInterval.Holds (i : RoundingInterval) (unit : ℤ) (x : ℚ) : Prop where
  low : i.low * 2 ^ unit ≤ x
  high : x ≤ i.high * 2 ^ unit
  inside : i.closed = false → i.low * 2 ^ unit < x ∧ x < i.high * 2 ^ unit

/-- In units of a double's last place its interval goes up to half a unit away. -/
theorem RoundingInterval.Holds.scaled {i : RoundingInterval} {e : ℤ} {y : ℚ}
    (h : i.Holds (e - 2) (y * 2 ^ e)) :
    (i.low : ℚ) ≤ 4 * y ∧ 4 * y ≤ i.high ∧
      (i.closed = false → (i.low : ℚ) < 4 * y ∧ 4 * y < i.high) := by
  obtain ⟨hlow, hhigh, hinside⟩ := h
  have hunit : y * (2 : ℚ) ^ e = 4 * y * 2 ^ (e - 2) := by
    rw [zpow_sub₀ two_ne_zero]
    norm_num
    ring
  have hpos : (0 : ℚ) < 2 ^ (e - 2) := by positivity
  rw [hunit] at hlow hhigh hinside
  rw [mul_le_mul_iff_left₀ hpos] at hlow hhigh
  rw [mul_lt_mul_iff_left₀ hpos, mul_lt_mul_iff_left₀ hpos] at hinside
  exact ⟨hlow, hhigh, hinside⟩

/-- A number in the interval of a double is at most half a unit away from it. -/
theorem RoundingInterval.Holds.near {mantissa : ℕ} {e : ℤ} {y : ℚ}
    (h : (RoundingInterval.of mantissa e).Holds (e - 2) (y * 2 ^ e)) : IsNearest mantissa y := by
  obtain ⟨hlow, hhigh, hinside⟩ := h.scaled
  have hhighEq : ((RoundingInterval.of mantissa e).high : ℚ) = 4 * mantissa + 2 := by
    simp [RoundingInterval.of]
  have hlowLe : (4 * mantissa : ℚ) ≤ (RoundingInterval.of mantissa e).low + 2 := by
    have : 4 * mantissa ≤ (RoundingInterval.of mantissa e).low + 2 := by
      simp only [RoundingInterval.of]
      split <;> omega
    exact_mod_cast this
  refine ⟨by linarith, by linarith, fun hodd => ?_⟩
  have hclosed : (RoundingInterval.of mantissa e).closed = false := by
    simp [RoundingInterval.of, hodd]
  obtain ⟨hlow, hhigh⟩ := hinside hclosed
  constructor <;> linarith

/-- Below a power of two the interval goes up to a quarter of a unit only. -/
theorem RoundingInterval.Holds.near_below {e : ℤ} {y : ℚ} (he : -1074 < e)
    (h : (RoundingInterval.of (2 ^ 52) e).Holds (e - 2) (y * 2 ^ e)) : 2 ^ 52 - 1 / 4 ≤ y := by
  have hlow := h.scaled.1
  have hlowEq : (RoundingInterval.of (2 ^ 52) e).low = 2 ^ 54 - 1 := by
    simp [RoundingInterval.of, fractionBits, leastExponent, he]
  rw [hlowEq] at hlow
  norm_num at hlow
  linarith

theorem RoundingInterval.Holds.lt_of_mantissa_lt {mantissa : ℕ} {e : ℤ} {y : ℚ}
    (hmantissa : mantissa < 2 ^ 53)
    (h : (RoundingInterval.of mantissa e).Holds (e - 2) (y * 2 ^ e)) : y < 2 ^ 53 - 1 / 2 := by
  obtain ⟨-, hup, hodd⟩ := h.near
  -- An odd mantissa does not own the end of its interval, and the largest one is odd.
  rcases Nat.mod_two_eq_zero_or_one mantissa with heven | hone
  · have : (mantissa : ℚ) + 2 ≤ 2 ^ 53 := by exact_mod_cast (by omega : mantissa + 2 ≤ 2 ^ 53)
    linarith
  · have : (mantissa : ℚ) + 1 ≤ 2 ^ 53 := by exact_mod_cast hmantissa
    linarith [(hodd hone).2]

/-- All quotients in the interval of a double round to its bits. -/
theorem nearestBits_of_holds {num den mantissa : ℕ} {e : ℤ} (hden : 0 < den)
    (hheld : Double.IsHeld mantissa e) (hpos : mantissa ≠ 0)
    (h : (RoundingInterval.of mantissa e).Holds (e - 2) ((num : ℚ) / den)) :
    nearestBits num den = magnitudeBits mantissa e := by
  obtain ⟨hmantissa, hleast, hmost, hleading⟩ := hheld
  obtain ⟨y, hy⟩ : ∃ y : ℚ, (num : ℚ) / den = y * 2 ^ e :=
    ⟨_, (div_mul_cancel₀ _ (by positivity)).symm⟩
  rw [hy] at h
  obtain ⟨hdown, hup, hodd⟩ := h.near
  have hone : (1 : ℚ) ≤ mantissa := by exact_mod_cast Nat.pos_of_ne_zero hpos
  have hhigh : y < 2 ^ 53 := by linarith [h.lt_of_mantissa_lt hmantissa]
  by_cases hlow : e = -1074 ∨ (2 : ℚ) ^ 52 ≤ y
  · refine nearestBits_eq hden hy (by linarith) hleast hlow hhigh h.near ?_
    rw [magnitudeBits]
    omega
  -- Right below a power of two the doubles lie twice as close, and the mantissa rounds up to the next.
  · obtain ⟨hne, hlt⟩ := not_or.mp hlow
    rw [not_le] at hlt
    obtain rfl : mantissa = 2 ^ 52 := by
      have : (mantissa : ℚ) < 2 ^ 52 + 1 := by linarith
      have : mantissa < 2 ^ 52 + 1 := by exact_mod_cast this
      omega
    have hquarter := h.near_below (by omega)
    have hhalf : (num : ℚ) / den = 2 * y * 2 ^ (e - 1) := by
      rw [hy, zpow_sub_one₀ two_ne_zero]
      ring
    have hcarry : magnitudeBits (2 ^ 52) e = magnitudeBits (2 ^ 53) (e - 1) := by
      rw [magnitudeBits, magnitudeBits]
      omega
    rw [hcarry]
    have hnear : IsNearest (2 ^ 53) (2 * y) := by
      refine ⟨?_, ?_, fun hodd => by norm_num at hodd⟩
      · push_cast
        linarith
      · push_cast
        linarith
    refine nearestBits_eq hden hhalf (by linarith) (by omega) (.inr (by linarith)) (by linarith)
      hnear ?_
    rw [magnitudeBits]
    omega

/-! ## Grids of decimals -/

/-- A point of a decimal grid, over a denominator that suits a binary unit as well. -/
theorem mul_ten_zpow_eq (d : ℕ) (grid unit : ℤ) :
    (d : ℚ) * 10 ^ grid = ((d * (2 ^ (-unit).toNat * 10 ^ grid.toNat) : ℕ) : ℚ) /
      ((2 ^ (-unit).toNat * 10 ^ (-grid).toNat : ℕ) : ℚ) := by
  have hten := zpow_eq_div (b := 10) (by norm_num) grid
  rw [Nat.cast_ofNat] at hten
  rw [hten]
  push_cast
  field_simp

/-- A multiple of a binary unit, over the same denominator. -/
theorem mul_two_zpow_eq (h : ℕ) (grid unit : ℤ) :
    (h : ℚ) * 2 ^ unit = ((h * (2 ^ unit.toNat * 10 ^ (-grid).toNat) : ℕ) : ℚ) /
      ((2 ^ (-unit).toNat * 10 ^ (-grid).toNat : ℕ) : ℚ) := by
  have htwo := zpow_eq_div (b := 2) (by norm_num) unit
  rw [Nat.cast_ofNat] at htwo
  rw [htwo]
  push_cast
  field_simp

namespace RoundingInterval

variable {i : RoundingInterval}

/-- What the search on a grid tests of the decimal that it finds. -/
theorem bounds_of_onGrid {unit : ℕ × ℕ} {place : ℤ} {tie : Tie} {count digits : ℕ} {grid : ℤ}
    (h : i.onGrid unit place tie count = some (digits, grid)) :
    let step := unit.2 * 10 ^ grid.toNat
    let scale := unit.1 * 10 ^ (-grid).toNat
    i.low * scale ≤ digits * step ∧ digits * step ≤ i.high * scale ∧
      (i.closed = false → i.low * scale < digits * step ∧ digits * step < i.high * scale) := by
  intro step scale
  unfold onGrid at h
  extract_lets grid' step' scale' centre low high below above holds down up pick at h
  obtain ⟨found, hpick, heq⟩ := Option.map_eq_some_iff.mp h
  obtain ⟨rfl, rfl⟩ := Prod.mk.inj heq
  have hholds : holds found = true := by
    simp only [pick] at hpick
    split at hpick
    · cases hpick
    · cases hpick; assumption
    · cases hpick; assumption
    · rename_i hbelow habove
      split at hpick
      · cases hpick; exact hbelow
      split at hpick
      · cases hpick; exact habove
      split at hpick
      · cases hpick; exact habove
      · cases hpick
        rcases Nat.mod_two_eq_zero_or_one below with heven | hodd
        · rw [heven]; exact hbelow
        · rw [hodd]; exact habove
  change (if i.closed then decide (i.low * scale ≤ found * step) &&
    decide (found * step ≤ i.high * scale) else
    decide (i.low * scale < found * step) && decide (found * step < i.high * scale)) = true
    at hholds
  split at hholds
  · rename_i hclosed
    rw [Bool.and_eq_true, decide_eq_true_eq, decide_eq_true_eq] at hholds
    exact ⟨hholds.1, hholds.2, fun hopen => absurd hclosed (by simp [hopen])⟩
  · rw [Bool.and_eq_true, decide_eq_true_eq, decide_eq_true_eq] at hholds
    exact ⟨hholds.1.le, hholds.2.le, fun _ => hholds⟩

/-- A decimal that is found on a grid lies in the interval. -/
theorem holds_of_onGrid {unit place grid : ℤ} {tie : Tie} {count digits : ℕ}
    (h : i.onGrid (Double.quotient 1 unit) place tie count = some (digits, grid)) :
    i.Holds unit (digits * 10 ^ grid) := by
  obtain ⟨hlow, hhigh, hinside⟩ := bounds_of_onGrid h
  simp only [Double.quotient, Nat.pow_eq, Nat.one_mul] at hlow hhigh hinside
  have hpos : (0 : ℚ) < ((2 ^ (-unit).toNat * 10 ^ (-grid).toNat : ℕ) : ℚ) := by positivity
  have hpoint := mul_ten_zpow_eq digits grid unit
  have hlowEq := mul_two_zpow_eq i.low grid unit
  have hhighEq := mul_two_zpow_eq i.high grid unit
  refine ⟨?_, ?_, fun hopen => ?_⟩
  · rw [hlowEq, hpoint, div_le_div_iff_of_pos_right hpos]
    exact_mod_cast hlow
  · rw [hhighEq, hpoint, div_le_div_iff_of_pos_right hpos]
    exact_mod_cast hhigh
  · rw [hlowEq, hhighEq, hpoint, div_lt_div_iff_of_pos_right hpos, div_lt_div_iff_of_pos_right hpos]
    exact_mod_cast hinside hopen

/-- On a grid that is finer than the interval is wide, a decimal is found. -/
theorem isSome_onGrid {unit : ℕ × ℕ} {place : ℤ} {count : ℕ} (tie : Tie) (hunit : 0 < unit.2)
    (hlow : i.low ≤ i.centre) (hhigh : i.centre < i.high)
    (hwide : unit.2 * 10 ^ (place - count).toNat <
      (i.high - i.low) * (unit.1 * 10 ^ (-(place - count)).toNat)) :
    (i.onGrid unit place tie count).isSome = true := by
  unfold onGrid
  extract_lets grid step scale centre low high below above holds down up pick
  have hstep : 0 < step := Nat.mul_pos hunit (Nat.pow_pos (by decide))
  have hwide : step + low < high := by
    have : step < (i.high - i.low) * scale := hwide
    rw [Nat.sub_mul] at this
    omega
  have hbelow : below * step ≤ centre := Nat.div_mul_le_self centre step
  have habove : centre < below * step + step := Nat.lt_div_mul_add hstep
  have hlow : low ≤ centre := Nat.mul_le_mul_right scale hlow
  have hscale : 0 < scale := Nat.pos_of_ne_zero fun hzero => by simp [low, high, hzero] at hwide
  have hhigh : centre < high := Nat.mul_lt_mul_of_pos_right hhigh hscale
  have hnext : above * step = below * step + step := Nat.succ_mul below step
  have hholds (d : ℕ) (hd : low < d * step ∧ d * step < high) : holds d = true := by
    simp only [holds]
    split
    · simp [hd.1.le, hd.2.le]
    · simp [hd.1, hd.2]
  -- The neighbour below lies in the interval, or else the one above is close enough to its lower end.
  have hfound : holds below = true ∨ holds above = true := by
    rcases Nat.lt_or_ge low (below * step) with hlt | hge
    · exact .inl (hholds below ⟨hlt, hbelow.trans_lt hhigh⟩)
    · exact .inr (hholds above ⟨by omega, by omega⟩)
  rw [Option.isSome_map]
  simp only [pick]
  split
  · rename_i hneither₁ hneither₂
    simp [hneither₁, hneither₂] at hfound
  · rfl
  · rfl
  · split
    · rfl
    split
    · rfl
    split
    · rfl
    · rfl

end RoundingInterval

theorem lt_ten_pow_digitCount (n : ℕ) : n < 10 ^ digitCount n :=
  (Nat.length_toDigits_le_iff (by norm_num) (digitCount_pos n)).mp le_rfl

theorem ten_pow_le_of_lt_digitCount {n k : ℕ} (hn : n ≠ 0) (hk : k < digitCount n) : 10 ^ k ≤ n := by
  rcases Nat.eq_zero_or_pos k with rfl | hpos
  · exact Nat.pos_of_ne_zero hn
  · exact not_lt.mp fun hlt => hk.not_ge ((Nat.length_toDigits_le_iff (by norm_num) hpos).mpr hlt)

/-- The leading place of a number is not above its first digit. -/
theorem ten_zpow_leadingPlace_le {num den : ℕ} (hnum : 0 < num) (hden : 0 < den) :
    (10 : ℚ) ^ (leadingPlace num den - 1) ≤ (num : ℚ) / den := by
  have hpos : (0 : ℚ) < den := by positivity
  rw [le_div_iff₀ hpos, leadingPlace]
  split
  · rename_i hle
    have hcount := digitCount_pos (num / den)
    have hquotient : 10 ^ (digitCount (num / den) - 1) ≤ num / den :=
      ten_pow_le_of_lt_digitCount (Nat.div_pos hle hden).ne' (by omega)
    have hmul := (Nat.le_div_iff_mul_le hden).mp hquotient
    rw [show (digitCount (num / den) : ℤ) - 1 = (digitCount (num / den) - 1 : ℕ) by omega, zpow_natCast]
    exact_mod_cast hmul
  · have hquotient := lt_ten_pow_digitCount ((den - 1) / num)
    have hmul : den ≤ num * 10 ^ digitCount ((den - 1) / num) := by
      have := (Nat.div_lt_iff_lt_mul hnum).mp hquotient
      rw [Nat.mul_comm]
      omega
    rw [show (1 : ℤ) - digitCount ((den - 1) / num) - 1 = -(digitCount ((den - 1) / num) : ℤ) by omega,
      zpow_neg, zpow_natCast, inv_mul_le_iff₀ (by positivity), mul_comm]
    exact_mod_cast hmul

/-! ## Decimals -/

/-- The magnitude of a decimal. -/
def Decimal.magnitude (d : Decimal) : ℚ := d.digits * 10 ^ d.exponent

/-- Zeros behind the digits that the exponent makes up for do not change the magnitude. -/
theorem Decimal.magnitude_mul_pow (negative : Bool) (digits zeros : ℕ) (exponent : ℤ) :
    (Decimal.mk negative (digits * 10 ^ zeros) (exponent - zeros)).magnitude =
      (Decimal.mk negative digits exponent).magnitude := by
  rw [magnitude, magnitude]
  simp only
  rw [zpow_sub₀ (by norm_num), zpow_natCast]
  push_cast
  field_simp

theorem two_pow_lt_ten_pow : (2 : ℚ) ^ (1075 : ℤ) < 10 ^ (400 : ℤ) := by
  calc (2 : ℚ) ^ (1075 : ℤ) < 2 ^ (1088 : ℤ) := zpow_lt_zpow_right₀ one_lt_two (by decide)
    _ = (2 ^ 68) ^ 16 := by rw [← pow_mul]; exact zpow_natCast 2 1088
    _ ≤ (10 ^ 25) ^ 16 := by gcongr; norm_num
    _ = 10 ^ (400 : ℤ) := by rw [← pow_mul]; exact (zpow_natCast 10 400).symm

theorem overflow_lt_ten_pow : overflow < 10 ^ (400 : ℤ) := by
  calc overflow < 2 ^ (1024 : ℤ) := overflow_lt
    _ ≤ 2 ^ (1075 : ℤ) := zpow_le_zpow_right₀ one_le_two (by decide)
    _ < 10 ^ (400 : ℤ) := two_pow_lt_ten_pow

theorem Decimal.toFloat_zero (negative : Bool) (exponent : ℤ) :
    (Decimal.mk negative 0 exponent).toFloat =
      Float.ofBits (UInt64.ofNat (0 + if negative then Nat.pow 2 63 else 0)) := by
  rw [toFloat]
  simp only [nearest, nearestBits, Nat.zero_mul, if_true]

/-- What is read for a decimal that is neither beyond the overflow nor tiny. -/
theorem Decimal.exists_toFloat_eq {d : Decimal} (hlow : (10 : ℚ) ^ (-400 : ℤ) < d.magnitude)
    (hhigh : d.magnitude < overflow) :
    ∃ num den : ℕ, 0 < den ∧ (num : ℚ) / den = d.magnitude ∧
      d.toFloat = nearest d.negative num den := by
  obtain ⟨negative, digits, exponent⟩ := d
  rw [magnitude] at *
  simp only at hlow hhigh
  have hpower : (0 : ℚ) < 10 ^ exponent := by positivity
  have hdigits : (1 : ℚ) ≤ digits := by
    have hpos : (0 : ℚ) < digits * 10 ^ exponent := lt_trans (by positivity) hlow
    exact_mod_cast (pos_iff_pos_of_mul_pos hpos).mpr hpower
  have hmost : exponent ≤ 400 := by
    by_contra hlarge
    have : (10 : ℚ) ^ (400 : ℤ) ≤ 10 ^ exponent := zpow_le_zpow_right₀ (by norm_num) (by omega)
    linarith [overflow_lt_ten_pow, le_mul_of_one_le_left hpower.le hdigits]
  have hleast : -(digitCount digits : ℤ) - 400 ≤ exponent := by
    by_contra hsmall
    have hcount : (digits : ℚ) < 10 ^ (digitCount digits : ℤ) := by
      rw [zpow_natCast]
      exact_mod_cast lt_ten_pow_digitCount digits
    refine hlow.not_ge ?_
    calc (digits : ℚ) * 10 ^ exponent ≤ 10 ^ (digitCount digits : ℤ) * 10 ^ exponent := by gcongr
      _ = 10 ^ ((digitCount digits : ℤ) + exponent) := by rw [zpow_add₀ (by norm_num)]
      _ ≤ 10 ^ (-400 : ℤ) := zpow_le_zpow_right₀ (by norm_num) (by omega)
  have hcut : max (-(digitCount digits : ℤ) - 400) (min 400 exponent) = exponent := by omega
  refine ⟨digits * 10 ^ exponent.toNat, 10 ^ (-exponent).toNat, by positivity, ?_, ?_⟩
  · simpa using (div_mul_zpow (b := 10) (by norm_num) digits 1 exponent).symm
  · rw [toFloat]
    simp only [Nat.pow_eq, hcut]

/-! ## Shortest decimals -/

theorem quotient_eq (mantissa : ℕ) (e : ℤ) :
    (((Double.quotient mantissa e).1 : ℕ) : ℚ) / (Double.quotient mantissa e).2 = mantissa * 2 ^ e := by
  have htwo := zpow_eq_div (b := 2) (by norm_num) e
  rw [Nat.cast_ofNat] at htwo
  rw [htwo]
  simp only [Double.quotient, Nat.pow_eq]
  push_cast
  ring

/-- Seventeen digits always suffice. -/
theorem isSome_onGrid_seventeen {mantissa : ℕ} {e : ℤ} (tie : Tie) (hmantissa : mantissa < 2 ^ 53)
    (hpos : mantissa ≠ 0) :
    let value := Double.quotient mantissa e
    ((RoundingInterval.of mantissa e).onGrid (Double.quotient 1 (e - 2))
      (leadingPlace value.1 value.2) tie 17).isSome = true := by
  intro value
  have hwidth : 4 * mantissa <
      ((RoundingInterval.of mantissa e).high - (RoundingInterval.of mantissa e).low) * 10 ^ 16 := by
    have hpower : Nat.pow 2 fractionBits = 2 ^ 52 := rfl
    simp only [RoundingInterval.of]
    split <;> omega
  have hlead : (10 : ℚ) ^ (leadingPlace value.1 value.2 - 1) ≤ (value.1 : ℚ) / value.2 :=
    ten_zpow_leadingPlace_le (Nat.mul_pos (Nat.pos_of_ne_zero hpos) (Nat.pow_pos two_pos))
      (Nat.pow_pos two_pos)
  rw [quotient_eq] at hlead
  refine RoundingInterval.isSome_onGrid tie (Nat.pow_pos two_pos) ?_ ?_ ?_
  · simp only [RoundingInterval.of]
    split <;> omega
  · simp only [RoundingInterval.of]
    omega
  generalize leadingPlace value.1 value.2 = place at hlead ⊢
  generalize (RoundingInterval.of mantissa e).high - (RoundingInterval.of mantissa e).low = width
    at hwidth ⊢
  have hgrid : ((1 : ℕ) : ℚ) * 10 ^ (place - (17 : ℕ)) < width * 2 ^ (e - 2) := by
    have hwidth' : (4 * mantissa : ℚ) < width * 10 ^ 16 := by exact_mod_cast hwidth
    calc ((1 : ℕ) : ℚ) * 10 ^ (place - (17 : ℕ)) = 10 ^ (place - 1) / 10 ^ 16 := by
          rw [Nat.cast_one, one_mul, show place - (17 : ℕ) = place - 1 - 16 by omega,
            zpow_sub₀ (by norm_num)]
          rfl
      _ ≤ mantissa * 2 ^ e / 10 ^ 16 := by gcongr
      _ < width * 2 ^ (e - 2) := by
          rw [div_lt_iff₀ (by norm_num), zpow_sub₀ two_ne_zero]
          have hunit : (0 : ℚ) < 2 ^ e := by positivity
          nlinarith
  have hden : (0 : ℚ) < ((2 ^ (-(e - 2)).toNat * 10 ^ (-(place - (17 : ℕ))).toNat : ℕ) : ℚ) := by
    positivity
  rw [mul_ten_zpow_eq 1 _ (e - 2), mul_two_zpow_eq width (place - (17 : ℕ)),
    div_lt_div_iff_of_pos_right hden] at hgrid
  simp only [Double.quotient, Nat.pow_eq, Nat.one_mul]
  simpa using (Nat.cast_lt (α := ℚ)).mp hgrid

/-- Zeros at the end of the digits move into the exponent. -/
theorem exists_dropZeros_eq (fuel digits : ℕ) (exponent : ℤ) :
    ∃ kept zeros : ℕ, dropZeros fuel (digits, exponent) = (kept, exponent + zeros) ∧
      digits = kept * 10 ^ zeros := by
  induction fuel generalizing digits exponent with
  | zero => exact ⟨digits, 0, by simp [dropZeros], by simp⟩
  | succ fuel ih =>
    rw [dropZeros]
    split
    · rename_i h
      obtain ⟨kept, zeros, heq, hdigits⟩ := ih (digits / 10) (exponent + 1)
      refine ⟨kept, zeros + 1, ?_, ?_⟩
      · rw [heq]
        push_cast
        congr 1
        ring
      · rw [pow_succ, ← mul_assoc, ← hdigits]
        omega
    · exact ⟨digits, 0, by simp, by simp⟩

/-- The shortest decimal of a double lies in its interval; that of a zero has the form without an
exponent. -/
theorem shortest_spec {mantissa : ℕ} {e : ℤ} (tie : Tie) (negative : Bool)
    (hmantissa : mantissa < 2 ^ 53) :
    let d := shortest tie negative mantissa e
    d.negative = negative ∧ (mantissa = 0 → d = ⟨negative, 0, 0⟩) ∧
      (mantissa ≠ 0 → (RoundingInterval.of mantissa e).Holds (e - 2) d.magnitude) := by
  rw [shortest]
  split
  · rename_i hzero
    exact ⟨rfl, fun _ => rfl, fun hpos => absurd hzero hpos⟩
  · rename_i hpos
    extract_lets value unit place interval found d
    refine ⟨rfl, fun hzero => absurd hzero hpos, fun _ => ?_⟩
    have hlast := isSome_onGrid_seventeen (e := e) tie hmantissa hpos
    have hsome : found.isSome = true :=
      List.findSome?_isSome_iff.mpr ⟨16, by simp, hlast⟩
    obtain ⟨⟨digits, grid⟩, hfound⟩ := Option.isSome_iff_exists.mp hsome
    obtain ⟨n, -, hgrid⟩ := List.exists_of_findSome?_eq_some hfound
    obtain ⟨kept, zeros, heq, hkept⟩ := exists_dropZeros_eq 18 digits grid
    have hd : d = ⟨negative, kept, grid + zeros⟩ := by
      simp only [d, hfound, Option.getD_some, heq]
    rw [hd, ← Decimal.magnitude_mul_pow negative kept zeros, ← hkept, add_sub_cancel_right]
    exact RoundingInterval.holds_of_onGrid hgrid

/-! ## Doubles -/

/-- A number in the interval of a double is neither tiny nor beyond the overflow. -/
theorem RoundingInterval.Holds.range {mantissa : ℕ} {e : ℤ} {x : ℚ}
    (hheld : Double.IsHeld mantissa e) (hpos : mantissa ≠ 0)
    (h : (RoundingInterval.of mantissa e).Holds (e - 2) x) :
    (10 : ℚ) ^ (-400 : ℤ) < x ∧ x < overflow := by
  have hunit : (0 : ℚ) < 2 ^ e := by positivity
  obtain ⟨y, rfl⟩ : ∃ y : ℚ, x = y * 2 ^ e := ⟨_, (div_mul_cancel₀ _ hunit.ne').symm⟩
  have hone : (1 : ℚ) ≤ mantissa := by exact_mod_cast Nat.pos_of_ne_zero hpos
  have hlow := h.near.low
  have hhigh := h.lt_of_mantissa_lt hheld.mantissa_lt
  constructor
  · calc (10 : ℚ) ^ (-400 : ℤ) < 2 ^ (-1075 : ℤ) := by
          rw [zpow_neg, zpow_neg]
          exact inv_strictAnti₀ (by positivity) two_pow_lt_ten_pow
      _ ≤ 2 ^ (e - 1) := zpow_le_zpow_right₀ one_le_two (by linarith [hheld.least])
      _ = 1 / 2 * 2 ^ e := by rw [zpow_sub_one₀ two_ne_zero]; ring
      _ ≤ y * 2 ^ e := by
          gcongr
          linarith
  · calc y * 2 ^ e < (2 ^ 53 - 1 / 2) * 2 ^ e := mul_lt_mul_of_pos_right hhigh hunit
      _ ≤ (2 ^ 53 - 1 / 2) * 2 ^ (971 : ℤ) := by
          gcongr
          · norm_num
          · exact hheld.most
      _ = overflow := by
          rw [← overflow_mul_zpow, mul_assoc, ← zpow_add₀ two_ne_zero]
          norm_num

/-- Every decimal in the interval of a double is read as the double. -/
theorem Decimal.toFloat_of_holds {d : Decimal} {mantissa : ℕ} {e : ℤ}
    (hheld : Double.IsHeld mantissa e) (hpos : mantissa ≠ 0)
    (h : (RoundingInterval.of mantissa e).Holds (e - 2) d.magnitude) :
    d.toFloat = Float.ofBits (UInt64.ofNat (magnitudeBits mantissa e +
      if d.negative then Nat.pow 2 63 else 0)) := by
  obtain ⟨hlow, hhigh⟩ := h.range hheld hpos
  obtain ⟨num, den, hden, hquotient, hread⟩ := Decimal.exists_toFloat_eq hlow hhigh
  rw [hread, nearest, nearestBits_of_holds hden hheld hpos (hquotient ▸ h)]

/-- The bits of a finite double. -/
theorem Double.isHeld_of_ofBits {bits mantissa : ℕ} {negative : Bool} {e : ℤ} (hbits : bits < 2 ^ 64)
    (h : ofBits bits = finite negative mantissa e) :
    IsHeld mantissa e ∧ bits = magnitudeBits mantissa e + if negative then Nat.pow 2 63 else 0 := by
  have hpower : Nat.pow 2 fractionBits = 2 ^ 52 := rfl
  have htop : Nat.pow 2 63 = 2 ^ 63 := rfl
  have hleast : leastExponent = -1074 := rfl
  unfold ofBits at h
  simp only [hpower, htop] at h ⊢
  split at h
  · split at h <;> cases h
  · split at h
    · obtain ⟨rfl, rfl, rfl⟩ := Double.finite.inj h
      refine ⟨⟨by omega, by omega, by omega, .inl hleast⟩, ?_⟩
      simp only [magnitudeBits, decide_eq_true_eq]
      split <;> omega
    · obtain ⟨rfl, rfl, rfl⟩ := Double.finite.inj h
      refine ⟨⟨by omega, by omega, by omega, .inr (by omega)⟩, ?_⟩
      simp only [magnitudeBits, decide_eq_true_eq]
      split <;> omega

theorem Double.exists_ofBits_eq_finite_iff {bits : ℕ} :
    (∃ negative mantissa e, ofBits bits = finite negative mantissa e) ↔ bits / 2 ^ 52 % 2048 ≠ 2047 := by
  have hpower : Nat.pow 2 fractionBits = 2 ^ 52 := rfl
  unfold ofBits
  simp only [hpower]
  split
  · rename_i hspecial
    refine iff_of_false ?_ (not_not.mpr hspecial)
    rintro ⟨negative, mantissa, e, h⟩
    split at h <;> cases h
  · rename_i hspecial
    refine iff_of_true ?_ hspecial
    split
    · exact ⟨_, _, _, rfl⟩
    · exact ⟨_, _, _, rfl⟩

open Float.Model in
/-- The finite doubles are those with a mantissa and an exponent. -/
theorem isFinite_iff (x : Float) :
    x.isFinite = true ↔ ∃ negative mantissa e, Double.ofFloat x = .finite negative mantissa e := by
  rw [Double.ofFloat, Double.exists_ofBits_eq_finite_iff]
  constructor
  · intro hfinite hspecial
    have hexponent : @UnpackedFloat.unpackExponent Format.binary64 x.toBits.toBitVec = -1#11 := by
      rw [UnpackedFloat.unpackExponent_def]
      apply BitVec.eq_of_toNat_eq
      rw [BitVec.extractLsb'_toNat, Nat.shiftRight_eq_div_pow]
      exact hspecial
    change (UnpackedFloat.unpack Format.binary64 x.toBits.toBitVec).isFinite = true at hfinite
    rw [UnpackedFloat.unpack] at hfinite
    simp only [hexponent, if_true] at hfinite
    split at hfinite <;> cases hfinite
  · intro hbits
    have := isFinite_ofBits hbits
    rwa [Float.ofBits_toBits] at this

/-- A finite double is put together again from its parts. -/
theorem Double.ofBits_magnitudeBits {x : Float} {negative : Bool} {mantissa : ℕ} {e : ℤ}
    (h : ofFloat x = finite negative mantissa e) :
    IsHeld mantissa e ∧ Float.ofBits (UInt64.ofNat (magnitudeBits mantissa e +
      if negative then Nat.pow 2 63 else 0)) = x := by
  obtain ⟨hheld, hbits⟩ := isHeld_of_ofBits x.toBits.toNat_lt h
  rw [← hbits, UInt64.ofNat_toNat, Float.ofBits_toBits]
  exact ⟨hheld, rfl⟩

/-! ## Doubles in documents -/

theorem floatText_of_not_isFinite {x : Float} (h : ¬x.isFinite = true) :
    Json.floatText x = "null".toList := by
  rw [Json.floatText]
  split
  · rename_i negative mantissa e hparts
    exact absurd ((isFinite_iff x).mpr ⟨negative, mantissa, e, hparts⟩) h
  · rfl

/-- What is written for a finite double is a numeral with its sign that is read as the double. -/
theorem exists_numeral_floatText {x : Float} (h : x.isFinite = true) :
    ∃ (negative : Bool) (n : Numeral), Json.floatText x = Decimal.signed negative n.text ∧
      Json.numberOf negative n.whole n.places n.power = .float x := by
  obtain ⟨negative, mantissa, e, hparts⟩ := (isFinite_iff x).mp h
  obtain ⟨hheld, hbits⟩ := Double.ofBits_magnitudeBits hparts
  obtain ⟨hnegative, hzero, hholds⟩ := shortest_spec (e := e) .even negative hheld.mantissa_lt
  rw [Json.floatText, hparts]
  simp only
  generalize shortest .even negative mantissa e = d at hnegative hzero hholds
  have hform : d.digits ≠ 0 ∨ d.exponent = 0 := by
    by_cases hmantissa : mantissa = 0
    · rw [hzero hmantissa]
      exact .inr rfl
    · refine .inl fun hdigits => ?_
      have hlow := ((hholds hmantissa).range hheld hmantissa).1
      rw [Decimal.magnitude, hdigits, Nat.cast_zero, zero_mul] at hlow
      exact absurd hlow (not_lt.mpr (by positivity))
  obtain ⟨n, htext, hfractional, zeros, hdecimal⟩ := exists_numeral_magnitude hform
    (d.digits = 0 ∨ -4 ≤ d.point ∧ d.point ≤ 16)
  rw [hnegative] at hdecimal
  have hread : (n.decimal negative).toFloat = x := by
    rw [hdecimal, ← hbits]
    by_cases hmantissa : mantissa = 0
    · obtain rfl : e = -1074 := hheld.leading.resolve_right (by omega)
      rw [hzero hmantissa, hmantissa, Nat.zero_mul, Decimal.toFloat_zero]
      rfl
    · refine Decimal.toFloat_of_holds hheld hmantissa ?_
      rw [Decimal.magnitude_mul_pow]
      exact hholds hmantissa
  refine ⟨negative, n, congrArg (Decimal.signed negative) htext.symm, ?_⟩
  rw [n.numberOf_eq negative hfractional, hread, if_pos h]

end Chargeback.Number
