import Chargeback.Proofs.LenientNumbers
import Chargeback.Proofs.WholeDoubles

/-!
# Displayed numbers are read back

Every finite double is displayed in positions: a whole number below the limit by its own digits, and
any other number by the fewest digits that name it. Either way the digits lie in the interval of the
double, so reading the text as free text gives the same double again, except that the sign of a zero is
gone. So two numbers are displayed alike only if they are equal, and a capacity equals its own text.
-/

namespace Chargeback

namespace Number

/-! ## Positional texts are free numerals -/

theorem FreeSign.isBlank_text (sign : FreeSign) : ∀ c ∈ sign.text, Text.isBlank c = false := by
  cases sign with
  | absent => exact fun c hc => absurd hc List.not_mem_nil
  | plus => exact List.forall_mem_singleton.mpr (by decide)
  | minus => exact List.forall_mem_singleton.mpr (by decide)

theorem FreePower.isBlank_text (p : FreePower) : ∀ c ∈ p.text, Text.isBlank c = false := by
  intro c hc
  rcases List.mem_cons.mp hc with rfl | hc
  · rcases p.mark_eq with hmark | hmark
    · rw [hmark]
      decide
    · rw [hmark]
      decide
  · rcases List.mem_append.mp hc with hc | hc
    · exact p.sign.isBlank_text c hc
    · exact isBlank_of_isDigit (p.isDigit_digits c hc)

/-- No blank stands in the text of a number. -/
theorem FreeNumeral.isBlank_text (n : FreeNumeral) : ∀ c ∈ n.text, Text.isBlank c = false := by
  have hpower : ∀ c ∈ (n.power.map FreePower.text).getD [], Text.isBlank c = false := by
    cases n.power with
    | none => exact fun c hc => absurd hc List.not_mem_nil
    | some p => exact p.isBlank_text
  have hplaces : ∀ c ∈ (if n.hasPoint then '.' :: n.places else []), Text.isBlank c = false := by
    intro c hc
    split at hc
    · rcases List.mem_cons.mp hc with rfl | hc
      · decide
      · exact isBlank_of_isDigit (n.isDigit_places c hc)
    · cases hc
  intro c hc
  rcases List.mem_append.mp hc with hc | hc
  · exact n.sign.isBlank_text c hc
  rcases List.mem_append.mp hc with hc | hc
  · exact isBlank_of_isDigit (n.isDigit_whole c hc)
  rcases List.mem_append.mp hc with hc | hc
  · exact hplaces c hc
  · exact hpower c hc

theorem FreeNumeral.trimChars_text (n : FreeNumeral) : Text.trimChars n.text = n.text :=
  Text.IsTrimmed.trimChars_eq
    ⟨fun c hc => n.isBlank_text c (List.mem_of_mem_head? hc),
      fun c hc => n.isBlank_text c (List.mem_of_mem_getLast? hc)⟩

/-- A sign that is written only in front of a negative number. -/
def FreeSign.ofNegative (negative : Bool) : FreeSign := if negative then .minus else .absent

@[simp]
theorem FreeSign.isNegative_ofNegative (negative : Bool) :
    (ofNegative negative).isNegative = negative := by
  cases negative <;> rfl

/-- The exponent of a document's number. -/
def FreePower.ofInt (e : Int) : FreePower where
  mark := 'e'
  sign := if e < 0 then .minus else .plus
  digits := digitsOf e.natAbs
  mark_eq := .inl rfl
  digits_ne_nil := digitsOf_ne_nil e.natAbs
  isDigit_digits _ := isDigit_of_mem_digitsOf

theorem FreePower.text_ofInt (e : Int) : (ofInt e).text = Numeral.powerText (some e) := by
  rw [text, ofInt, Numeral.powerText]
  split <;> rfl

theorem FreePower.value_ofInt (e : Int) : (ofInt e).value = e := by
  rw [value, ofInt, natOfDigits_digitsOf]
  by_cases hneg : e < 0
  · rw [if_pos hneg]
    show -(e.natAbs : Int) = e
    omega
  · rw [if_neg hneg]
    show (e.natAbs : Int) = e
    omega

/-- A number of a document is a number of free text. -/
def Numeral.toFree (n : Numeral) (negative : Bool) : FreeNumeral where
  sign := .ofNegative negative
  whole := n.whole
  hasPoint := n.places ≠ []
  places := n.places
  power := n.power.map .ofInt
  isDigit_whole := n.isDigit_whole
  isDigit_places := n.isDigit_places
  hasDigits h := n.whole_ne_nil h.1
  places_eq_nil h := by simpa using h

theorem Numeral.text_toFree (n : Numeral) (negative : Bool) :
    (n.toFree negative).text = Decimal.signed negative n.text := by
  have hplaces : (if (n.toFree negative).hasPoint then '.' :: n.places else []) =
      if n.places = [] then [] else '.' :: n.places := by
    by_cases hnil : n.places = [] <;> simp [toFree, hnil]
  have hpower : ((n.power.map FreePower.ofInt).map FreePower.text).getD [] = powerText n.power := by
    cases n.power with
    | none => rfl
    | some e => exact FreePower.text_ofInt e
  have htail : (n.toFree negative).tail =
      (if n.places = [] then [] else '.' :: n.places) ++ powerText n.power := by
    rw [← hplaces, ← hpower]
    rfl
  rw [FreeNumeral.text, htail, Numeral.text]
  cases negative <;> rfl

theorem Numeral.decimal_toFree (n : Numeral) (negative : Bool) :
    (n.toFree negative).decimal = n.decimal negative := by
  have hpower : ((n.power.map FreePower.ofInt).map FreePower.value).getD 0 = n.power.getD 0 := by
    cases n.power with
    | none => rfl
    | some e => exact FreePower.value_ofInt e
  rw [FreeNumeral.decimal, decimal, ← hpower, ← natOfDigits_append]
  simp [toFree]

namespace Decimal

/-- What would be written after a whole number does not matter to a decimal with places. -/
theorem positional_eq_of_neg {d : Decimal} (h : d.exponent < 0) (whole whole' : List Char) :
    d.positional whole = d.positional whole' := by
  rw [positional, positional, if_neg (not_le.mpr h), if_neg (not_le.mpr h)]

/-- A decimal in positions is a free numeral of the same sign and magnitude. -/
theorem exists_free_positional (d : Decimal) :
    ∃ n : FreeNumeral, n.text = signed d.negative (d.positional []) ∧
      n.decimal.negative = d.negative ∧ n.decimal.magnitude = d.magnitude := by
  by_cases hexponent : 0 ≤ d.exponent
  -- Without places the text is no number of a document, which would go on with a point.
  · have hdigit : ∀ c ∈ digitsOf d.digits ++ List.replicate d.exponent.toNat '0',
        c.isDigit = true := fun c hc =>
      (List.mem_append.mp hc).elim isDigit_of_mem_digitsOf isDigit_of_mem_zeros
    refine ⟨⟨.ofNegative d.negative, _, false, [], none, hdigit, by simp, by simp [digitsOf_ne_nil],
      fun _ => rfl⟩, ?_, FreeSign.isNegative_ofNegative _, ?_⟩
    · rw [positional, if_pos hexponent, FreeNumeral.text]
      cases d.negative <;> simp [FreeNumeral.tail, signed, FreeSign.ofNegative, FreeSign.text]
    · rw [FreeNumeral.decimal, List.append_nil, natOfDigits_append, natOfDigits_zeros,
        natOfDigits_digitsOf]
      have hzeros : ((none : Option FreePower).map FreePower.value).getD 0 -
          (([] : List Char).length : ℤ) = d.exponent - (d.exponent.toNat : ℤ) := by
        simp
        omega
      rw [hzeros, magnitude_mul_pow]
      rfl
  · obtain ⟨n, htext, -, zeros, hdecimal⟩ : ∃ n : Numeral,
        n.text = d.positional ['.', '0'] ∧ n.Spells d := by
      by_cases hpoint : 0 < d.point
      · exact exists_numeral_of_point_pos (not_le.mp hexponent) hpoint
      · exact exists_numeral_of_point_nonpos (not_le.mp hexponent) (not_lt.mp hpoint)
    refine ⟨n.toFree d.negative, ?_, ?_, ?_⟩
    · rw [n.text_toFree, htext, positional_eq_of_neg (not_le.mp hexponent)]
    · rw [n.decimal_toFree, hdecimal]
    · rw [n.decimal_toFree, hdecimal, magnitude_mul_pow]

/-- Any zero without a sign is read as the usual zero. -/
theorem toFloat_of_magnitude_eq_zero {d : Decimal} (hnegative : d.negative = false)
    (h : d.magnitude = 0) : d.toFloat = 0 := by
  obtain ⟨negative, digits, exponent⟩ := d
  have hdigits : digits = 0 := by
    rwa [magnitude, mul_eq_zero, or_iff_left (zpow_ne_zero _ (by norm_num)), Nat.cast_eq_zero] at h
  have hsign : negative = false := hnegative
  rw [hdigits, hsign, toFloat_zero]
  decide

end Decimal

/-! ## Displayed doubles -/

variable {x y : Float} {negative : Bool} {mantissa : ℕ} {e : ℤ}

theorem beq_zero_iff (h : Double.ofFloat x = .finite negative mantissa e) :
    (x == 0) = true ↔ mantissa = 0 := by
  obtain ⟨hheld, hbits⟩ := Double.ofBits_magnitudeBits h
  rw [Float.beq_iff_ne_nan_and_eq]
  constructor
  · rintro ⟨-, -, rfl | ⟨rfl, -⟩ | ⟨rfl, -⟩⟩
    · exact (Double.finite.inj h).2.1.symm
    · exact (Double.finite.inj h).2.1.symm
    · exact (Double.finite.inj h).2.1.symm
  · rintro rfl
    obtain rfl : e = -1074 := hheld.leading.resolve_right (by omega)
    rw [← hbits]
    cases negative with
    | true => exact ⟨by decide, by decide, .inr (.inr ⟨by decide, rfl⟩)⟩
    | false => exact ⟨by decide, by decide, .inl (by decide)⟩

theorem RoundingInterval.holds_self (mantissa : ℕ) (e : ℤ) (hpos : mantissa ≠ 0) :
    (RoundingInterval.of mantissa e).Holds (e - 2) (mantissa * 2 ^ e) := by
  have hunit : (mantissa : ℚ) * 2 ^ e = (4 * mantissa : ℕ) * 2 ^ (e - 2) := by
    rw [zpow_sub₀ two_ne_zero]
    push_cast
    field_simp
  have hpower : (0 : ℚ) < 2 ^ (e - 2) := by positivity
  have hlow : (RoundingInterval.of mantissa e).low < 4 * mantissa := by
    simp only [RoundingInterval.of]
    split <;> omega
  have hhigh : 4 * mantissa < (RoundingInterval.of mantissa e).high := by
    simp only [RoundingInterval.of]
    omega
  have hinside : ((RoundingInterval.of mantissa e).low : ℚ) * 2 ^ (e - 2) < mantissa * 2 ^ e ∧
      (mantissa : ℚ) * 2 ^ e < (RoundingInterval.of mantissa e).high * 2 ^ (e - 2) := by
    rw [hunit, mul_lt_mul_iff_left₀ hpower, mul_lt_mul_iff_left₀ hpower]
    exact ⟨by exact_mod_cast hlow, by exact_mod_cast hhigh⟩
  exact ⟨hinside.1.le, hinside.2.le, fun _ => hinside⟩

theorem signOf_apply_neg_iff (negative : Bool) (n : ℕ) :
    (signOf negative).apply n < 0 ↔ negative = true ∧ n ≠ 0 := by
  cases negative with
  | true =>
    change -(n : ℤ) < 0 ↔ _
    simp [Nat.pos_iff_ne_zero]
  | false =>
    change (n : ℤ) < 0 ↔ _
    simp

theorem natAbs_signOf_apply (negative : Bool) (n : ℕ) :
    ((signOf negative).apply n).natAbs = n := by
  cases negative with
  | true => exact Int.natAbs_neg n
  | false => rfl

/-- What is displayed for a double is a decimal in its interval, and for a zero the digit without a
sign. -/
theorem exists_display_eq (h : Double.ofFloat x = .finite negative mantissa e) :
    ∃ d : Decimal, Scalar.display x = String.ofList (Decimal.signed d.negative (d.positional [])) ∧
      (mantissa = 0 → d = ⟨false, 0, 0⟩) ∧
      (mantissa ≠ 0 → d.negative = negative ∧
        (RoundingInterval.of mantissa e).Holds (e - 2) d.magnitude) := by
  rw [Scalar.display, whole?_of_ofFloat h]
  by_cases hwhole : (Double.quotient mantissa e).1 % (Double.quotient mantissa e).2 = 0 ∧
      Double.wholePart mantissa e < Scalar.wholeLimit
  -- The digits of a whole number are the double itself, in the middle of its interval.
  · have hexact := cast_wholePart hwhole.1
    rw [if_pos hwhole]
    generalize Double.wholePart mantissa e = n at hexact
    have hzero : n = 0 ↔ mantissa = 0 := by
      rw [← Nat.cast_eq_zero (R := ℚ), hexact, mul_eq_zero,
        or_iff_left (zpow_ne_zero e two_ne_zero), Nat.cast_eq_zero]
    refine ⟨⟨decide ((signOf negative).apply n < 0), n, 0⟩, ?_, fun hnone => ?_,
      fun hpos => ⟨?_, ?_⟩⟩
    · simp [natAbs_signOf_apply, Decimal.positional]
    · rw [hzero.mpr hnone]
      cases negative <;> rfl
    · simp [signOf_apply_neg_iff, mt hzero.mp hpos]
    · rw [Decimal.magnitude, zpow_zero, mul_one, hexact]
      exact RoundingInterval.holds_self mantissa e hpos
  -- Any other number is not zero, and is written by its shortest decimal.
  · obtain ⟨hnegative, -, hholds⟩ := shortest_spec (e := e) .up negative
      (Double.ofBits_magnitudeBits h).1.mantissa_lt
    rw [if_neg hwhole]
    refine ⟨shortest .up negative mantissa e, ?_, ?_, fun hpos => ⟨hnegative, hholds hpos⟩⟩
    · change String.ofList (Scalar.plainFloat x) = _
      rw [Scalar.plainFloat, h, hnegative]
    · rintro rfl
      refine absurd ⟨?_, ?_⟩ hwhole
      · simp [Double.quotient]
      · simp [Double.wholePart, Double.quotient, Scalar.wholeLimit]

/-- Reading a displayed number gives the number again, and for both zeros the one without a sign. -/
theorem parse?_display (hx : x.isFinite = true) :
    Scalar.parse? (Scalar.display x) = some (if x == 0 then 0 else x) := by
  obtain ⟨negative, mantissa, e, h⟩ := (isFinite_iff x).mp hx
  obtain ⟨hheld, hbits⟩ := Double.ofBits_magnitudeBits h
  obtain ⟨d, htext, hzero, hholds⟩ := exists_display_eq h
  obtain ⟨n, hn, hnegative, hmagnitude⟩ := d.exists_free_positional
  have hread : n.decimal.toFloat = if x == 0 then 0 else x := by
    by_cases hnone : mantissa = 0
    · rw [hzero hnone] at hnegative hmagnitude
      rw [if_pos ((beq_zero_iff h).mpr hnone)]
      exact Decimal.toFloat_of_magnitude_eq_zero hnegative
        (hmagnitude.trans (by simp [Decimal.magnitude]))
    · obtain ⟨hsign, hholds⟩ := hholds hnone
      rw [if_neg (mt (beq_zero_iff h).mp hnone),
        Decimal.toFloat_of_holds hheld hnone (hmagnitude ▸ hholds), hnegative, hsign, hbits]
  have hfinite : (n.decimal.toFloat).isFinite = true := by
    rw [hread]
    split
    · decide
    · exact hx
  rw [htext, Scalar.parse?, String.toList_ofList, ← hn, n.trimChars_text, n.readDecimal?_text,
    ← hread]
  exact if_pos hfinite

theorem eq_zero_of_beq_zero (h : (x == 0) = true) : x = 0 ∨ x = -0 := by
  rcases (Float.beq_iff_ne_nan_and_eq.mp h).2.2 with h | ⟨h, -⟩ | ⟨h, -⟩
  · exact .inl h
  · exact .inl h
  · exact .inr h

/-- Two finite numbers that are the same without the sign of a zero are equal. -/
theorem beq_of_unsigned_eq (hx : x.isFinite = true)
    (h : (if x == 0 then 0 else x) = if y == 0 then 0 else y) : (x == y) = true := by
  split at h
  · rename_i hxzero
    split at h
    · rename_i hyzero
      rcases eq_zero_of_beq_zero hxzero with rfl | rfl
      · rwa [beq_swap]
      · rcases eq_zero_of_beq_zero hyzero with rfl | rfl <;> decide
    · rename_i hynonzero
      exact absurd (by rw [← h]; decide) hynonzero
  · rename_i hxnonzero
    split at h
    · exact absurd (by rw [h]; decide) hxnonzero
    · exact h ▸ beq_self_of_isFinite hx

/-- Two numbers are displayed alike exactly if they are equal. -/
theorem display_eq_iff (hx : x.isFinite = true) (hy : y.isFinite = true) :
    Scalar.display x = Scalar.display y ↔ (x == y) = true := by
  constructor
  · intro h
    have hread := congrArg (Scalar.parse? (α := Float)) h
    rw [parse?_display hx, parse?_display hy, Option.some.injEq] at hread
    exact beq_of_unsigned_eq hx hread
  · intro h
    rcases (Float.beq_iff_ne_nan_and_eq.mp h).2.2 with rfl | ⟨rfl, rfl⟩ | ⟨rfl, rfl⟩
    · rfl
    · decide +kernel
    · decide +kernel

end Number

/-- A finite number equals its own text. -/
theorem FieldValue.looselyEquals_display {x : Float} (hx : x.isFinite = true) :
    (FieldValue.number x).looselyEquals (Scalar.display x) = true := by
  rw [looselyEquals, Number.parse?_display hx]
  change ((if x == 0 then 0 else x) == x) = true
  split
  · rename_i hzero
    rwa [Number.beq_swap]
  · exact Number.beq_self_of_isFinite hx

/-- Displayed numbers are read back. A number is displayed as a whole one if it is finite, has no
fraction and stays below the limit, and then as its conversion into 64 bits. Whichever way a finite
number is displayed, reading it gives the same number, or the usual zero for both zeros. So two finite
numbers are displayed alike exactly if they are equal, and a numeric attribute of a resource with finite
capacities equals the text that is displayed for it. -/
theorem displayed_numbers_read_back :
    (∀ x : Float, Scalar.whole? x =
      if x.isFinite = true ∧ Int.fract (Number.exactValue x) = 0 ∧ x.abs < 1e15
      then some x.toModel.toInt64.toInt else none) ∧
    (∀ x : Float, x.isFinite = true →
      Scalar.parse? (Scalar.display x) = some (if x == 0 then 0 else x)) ∧
    (∀ x y : Float, x.isFinite = true → y.isFinite = true →
      (Scalar.display x = Scalar.display y ↔ (x == y) = true)) ∧
    (∀ r : Resource Float, r.HasFiniteCapacities → ∀ (a : Attribute) (x : Float),
      r.get a = .number x →
        Condition.holds ⟨.ofAttribute a, .equals, Scalar.display x⟩ r = true) := by
  refine ⟨Number.whole?_eq, fun x hx => Number.parse?_display hx,
    fun x y hx hy => Number.display_eq_iff hx hy, fun r hr a x ha => ?_⟩
  have hnumber : ((Field.ofAttribute a).resolve r).number? = some x := by
    rw [Field.resolve, ha, FieldValue.number?]
  change (r.get a).looselyEquals (Scalar.display x) = true
  rw [ha]
  exact FieldValue.looselyEquals_display (hr.isFinite_of_resolve hnumber)

namespace Sample

/-- A resource with a zero that has a sign, the limit for whole numbers and the smallest double. -/
def extreme : Resource Float := ⟨"1", "web", none, "", "", -0.0, 1e15, 5e-324, ∅⟩

end Sample

theorem displayed_numbers_read_back_extreme :
    let r := Sample.extreme
    r.HasFiniteCapacities ∧
      Scalar.display r.cpu = "0" ∧ Scalar.display r.memory = "1000000000000000" ∧
      Condition.holds ⟨.ofAttribute .cpu, .equals, "0"⟩ r = true ∧
      Condition.holds ⟨.ofAttribute .memory, .equals, "1000000000000000"⟩ r = true ∧
      Condition.holds ⟨.ofAttribute .storage, .equals, Scalar.display r.storage⟩ r = true ∧
      Scalar.whole? r.memory = none ∧ Scalar.whole? (-r.memory + 1) = some (-999999999999999) ∧
      Scalar.parse? (Scalar.display r.cpu) = some (0 : Float) ∧
      Scalar.parse? (Scalar.display r.storage) = some r.storage ∧
      Scalar.display r.cpu = Scalar.display (0 : Float) ∧
      Scalar.display r.storage ≠ Scalar.display (0 : Float) := by
  intro r
  have hr : r.HasFiniteCapacities := ⟨by decide, by decide, by decide +kernel⟩
  have hcpu : Scalar.display r.cpu = "0" := by decide +kernel
  have hmemory : Scalar.display r.memory = "1000000000000000" := by decide +kernel
  obtain ⟨hwhole, hread, halike, hholds⟩ := displayed_numbers_read_back
  have hholds := hholds r hr
  refine ⟨hr, hcpu, hmemory, hcpu ▸ hholds .cpu r.cpu rfl, hmemory ▸ hholds .memory r.memory rfl,
    hholds .storage r.storage rfl, ?_, ?_, ?_, ?_, ?_, ?_⟩
  · rw [hwhole]
    exact if_neg fun h => absurd h.2.2 (by decide)
  · decide +kernel
  · exact (hread r.cpu hr.cpu).trans (congrArg some (if_pos (by decide)))
  · exact (hread r.storage hr.storage).trans (congrArg some (if_neg (by decide +kernel)))
  · exact (halike r.cpu 0 hr.cpu (by decide)).mpr (by decide)
  · exact mt (halike r.storage 0 hr.storage (by decide)).mp (by decide +kernel)

end Chargeback
