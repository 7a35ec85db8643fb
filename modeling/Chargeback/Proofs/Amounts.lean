import Chargeback.Proofs.DisplayedNumbers

/-!
# Amounts are written to the hundredth

An amount has two places, whatever its size: digits in front of a point, none of them a zero that does
not count, and two digits behind it. Together they are the exact value rounded to hundredths, a half to
the even one, so no printed amount is off by more than half a hundredth. Numbers with another number of
places are written alike.
-/

namespace Chargeback

namespace Number

/-! ## Texts with a number of places -/

/-- A text has a number of places: digits in front of a point, of which the first is a zero only if there
is no other, then so many digits, and no exponent. -/
structure FreeNumeral.HasPlaces (n : FreeNumeral) (places : ℕ) : Prop where
  whole_ne_nil : n.whole ≠ []
  whole_eq_zero : n.whole.head? = some '0' → n.whole = ['0']
  hasPoint : n.hasPoint = true
  length_places : n.places.length = places
  power_eq_none : n.power = none

theorem exists_parts_fixedPlaces {places : ℕ} (hplaces : 0 < places) (num den : ℕ) :
    ∃ whole part : List Char, fixedPlaces places num den = whole ++ '.' :: part ∧
      whole ≠ [] ∧ (whole.head? = some '0' → whole = ['0']) ∧ part.length = places ∧
      (∀ c ∈ whole ++ part, c.isDigit = true) ∧
      natOfDigits 0 (whole ++ part) = roundHalfEven (num * 10 ^ places) den := by
  obtain ⟨digits, hdigits⟩ : ∃ digits, digits = digitsOf (roundHalfEven (num * 10 ^ places) den) :=
    ⟨_, rfl⟩
  obtain ⟨padded, hpadded⟩ : ∃ padded,
      padded = List.replicate (places + 1 - digits.length) '0' ++ digits := ⟨_, rfl⟩
  have hlength : padded.length = max (places + 1) digits.length := by
    rw [hpadded, List.length_append, List.length_replicate]
    omega
  refine ⟨padded.take (padded.length - places), padded.drop (padded.length - places),
    ?_, ?_, ?_, ?_, ?_, ?_⟩
  · unfold fixedPlaces
    simp only [Nat.pow_eq, if_neg hplaces.ne', ← hdigits, ← hpadded]
  · rw [← List.length_pos_iff, List.length_take]
    omega
  · intro hhead
    by_cases hshort : digits.length ≤ places
    -- Padded digits have one in front of the point.
    · have hone : (padded.take (padded.length - places)).length = 1 := by
        rw [List.length_take]
        omega
      obtain ⟨c, hc⟩ := List.length_eq_one_iff.mp hone
      rw [hc] at hhead ⊢
      rw [Option.some.inj hhead]
    -- Others are not padded, and a zero has one digit only.
    · have hall : padded = digits := by
        rw [hpadded, Nat.sub_eq_zero_of_le (by omega), List.replicate_zero, List.nil_append]
      rw [List.head?_take, if_neg (by omega), hall, hdigits] at hhead
      have hzero : roundHalfEven (num * 10 ^ places) den = 0 :=
        not_not.mp fun hne => head?_digitsOf hne hhead
      rw [hdigits, hzero] at hshort
      exact absurd hplaces hshort
  · rw [List.length_drop]
    omega
  · rw [List.take_append_drop, hpadded, hdigits]
    exact fun c hc => (List.mem_append.mp hc).elim isDigit_of_mem_zeros isDigit_of_mem_digitsOf
  · rw [List.take_append_drop, hpadded, hdigits, natOfDigits_zeros_append]

/-- A text with a number of places writes a number: it has a minus sign in front of a negative number,
none in front of a positive one and either in front of a zero, and its digits are the nearest ones. -/
structure FreeNumeral.Writes (n : FreeNumeral) (places : ℕ) (x : ℚ) : Prop extends
    n.HasPlaces places where
  sign_ne_plus : n.sign ≠ .plus
  sign_of_neg : x < 0 → n.sign = .minus
  sign_of_pos : 0 < x → n.sign = .absent
  nearest : IsNearest (natOfDigits 0 (n.whole ++ n.places)) (|x| * 10 ^ places)

variable {places : ℕ} {x y : ℚ}

theorem exists_writes_fixedPlaces (hplaces : 0 < places) {negative : Bool} {num den : ℕ}
    (hden : 0 < den) (hx : |x| = num / den) (hneg : x < 0 → negative = true)
    (hpos : 0 < x → negative = false) :
    ∃ n : FreeNumeral, n.text = Decimal.signed negative (fixedPlaces places num den) ∧
      n.Writes places x := by
  obtain ⟨whole, part, htext, hne, hzero, hlength, hdigit, hvalue⟩ :=
    exists_parts_fixedPlaces hplaces num den
  obtain ⟨hwhole, hpart⟩ := List.forall_mem_append.mp hdigit
  refine ⟨⟨.ofNegative negative, whole, true, part, none, hwhole, hpart, fun h => hne h.1,
    fun h => by cases h⟩, ?_, ⟨⟨hne, hzero, rfl, hlength, rfl⟩, ?_, ?_, ?_, ?_⟩⟩
  · rw [htext]
    cases negative <;> simp [FreeNumeral.text, FreeNumeral.tail, Decimal.signed, FreeSign.ofNegative,
      FreeSign.text]
  · show FreeSign.ofNegative negative ≠ .plus
    cases negative <;> decide
  · intro h
    rw [hneg h]
    rfl
  · intro h
    rw [hpos h]
    rfl
  · have hscaled : |x| * 10 ^ places = ((num * 10 ^ places : ℕ) : ℚ) / den := by
      rw [hx]
      push_cast
      ring
    rw [hvalue, hscaled]
    exact isNearest_roundHalfEven _ hden

/-- What is written is off by half a unit of the last place at most. -/
theorem FreeNumeral.Writes.abs_magnitude_sub_le {n : FreeNumeral} (h : n.Writes places x) :
    |n.decimal.magnitude - (|x|)| ≤ 1 / 10 ^ places / 2 := by
  have hunit : (0 : ℚ) < 10 ^ places := by positivity
  have hmagnitude : n.decimal.magnitude =
      natOfDigits 0 (n.whole ++ n.places) / 10 ^ places := by
    have hexponent : n.decimal.exponent = -(places : ℤ) := by
      simp [FreeNumeral.decimal, h.power_eq_none, h.length_places]
    rw [Decimal.magnitude, hexponent, zpow_neg, zpow_natCast, ← div_eq_mul_inv]
    rfl
  have hnear : |(natOfDigits 0 (n.whole ++ n.places) : ℚ) - |x| * 10 ^ places| ≤ 1 / 2 := by
    rw [abs_le]
    constructor
    · linarith [h.nearest.high]
    · linarith [h.nearest.low]
  rw [hmagnitude, div_sub' hunit.ne', abs_div, abs_of_pos hunit, mul_comm _ |x|, div_right_comm]
  exact div_le_div_of_nonneg_right hnear hunit.le

theorem FreeNumeral.Writes.nonpos {n : FreeNumeral} (h : n.Writes places x)
    (hnegative : n.decimal.negative = true) : x ≤ 0 := by
  by_contra hpos
  have hsign : n.sign.isNegative = true := hnegative
  rw [h.sign_of_pos (not_le.mp hpos)] at hsign
  cases hsign

theorem FreeNumeral.Writes.nonneg {n : FreeNumeral} (h : n.Writes places x)
    (hnegative : n.decimal.negative = false) : 0 ≤ x := by
  by_contra hneg
  have hsign : n.sign.isNegative = false := hnegative
  rw [h.sign_of_neg (not_le.mp hneg)] at hsign
  cases hsign

/-- Numbers that are written alike differ by a unit of the last place at most. -/
theorem FreeNumeral.Writes.abs_sub_le {m n : FreeNumeral} (hm : m.Writes places x)
    (hn : n.Writes places y) (htext : m.text = n.text) : |x - y| ≤ 1 / 10 ^ places := by
  have hsame : m.decimal = n.decimal := by
    have hread := m.readDecimal?_text
    rw [htext, n.readDecimal?_text] at hread
    exact (Option.some.inj hread).symm
  have hx := hm.abs_magnitude_sub_le
  have hy := hn.abs_magnitude_sub_le
  rw [hsame] at hx
  have hmagnitudes : |(|x|) - (|y|)| ≤ 1 / 10 ^ places := by
    rw [abs_le] at hx hy ⊢
    constructor
    · linarith [hx.2, hy.1]
    · linarith [hx.1, hy.2]
  cases hnegative : n.decimal.negative with
  | true =>
    rwa [abs_of_nonpos (hm.nonpos (hsame ▸ hnegative)), abs_of_nonpos (hn.nonpos hnegative),
      neg_sub_neg, abs_sub_comm] at hmagnitudes
  | false =>
    rwa [abs_of_nonneg (hm.nonneg (hsame ▸ hnegative)), abs_of_nonneg (hn.nonneg hnegative)]
      at hmagnitudes

end Number

/-! ## Amounts -/

namespace Scalar

open Number

theorem exists_writes_fixed {x : Float} (hx : x.isFinite = true) {places : ℕ} (hplaces : 0 < places) :
    ∃ n : FreeNumeral, n.text = fixed places x ∧ n.Writes places (exactValue x) := by
  obtain ⟨negative, mantissa, e, h⟩ := (isFinite_iff x).mp hx
  have htext : fixed places x = Decimal.signed negative
      (fixedPlaces places (Double.quotient mantissa e).1 (Double.quotient mantissa e).2) := by
    change fixedFloat places x = _
    rw [fixedFloat, h]
  have hden : 0 < (Double.quotient mantissa e).2 := Nat.pow_pos two_pos
  have hmagnitude : (0 : ℚ) ≤ mantissa * 2 ^ e := by positivity
  have hvalue : exactValue x = if negative then -(mantissa * 2 ^ e : ℚ) else mantissa * 2 ^ e := by
    rw [exactValue, h]
  have habs : |exactValue x| = ((Double.quotient mantissa e).1 : ℚ) / (Double.quotient mantissa e).2 := by
    rw [quotient_eq, hvalue]
    cases negative with
    | true => exact (abs_neg _).trans (abs_of_nonneg hmagnitude)
    | false => exact abs_of_nonneg hmagnitude
  rw [htext]
  refine exists_writes_fixedPlaces hplaces hden habs ?_ ?_
  · intro hneg
    cases negative with
    | true => rfl
    | false => exact absurd (hvalue ▸ hmagnitude : 0 ≤ exactValue x) (not_le.mpr hneg)
  · intro hpos
    cases negative with
    | true =>
      rw [hvalue, if_pos rfl] at hpos
      exact absurd (neg_nonpos.mpr hmagnitude) (not_le.mpr hpos)
    | false => rfl

theorem exists_writes_fixed_rat (x : ℚ) {places : ℕ} (hplaces : 0 < places) :
    ∃ n : FreeNumeral, n.text = fixed places x ∧ n.Writes places x := by
  have habs : |x| = (x.num.natAbs : ℚ) / x.den := by
    conv_lhs => rw [← Rat.num_div_den x]
    rw [abs_div, Nat.abs_cast, Nat.cast_natAbs, Int.cast_abs]
  have hneg : x < 0 → decide (x.num < 0) = true := fun h => decide_eq_true (Rat.num_neg.mpr h)
  have hpos : 0 < x → decide (x.num < 0) = false := fun h =>
    decide_eq_false (not_lt.mpr (Rat.num_nonneg.mpr h.le))
  exact exists_writes_fixedPlaces hplaces x.den_pos habs hneg hpos

/-- An amount is written to the hundredth. -/
theorem exists_writes_money {x : Float} (hx : x.isFinite = true) :
    ∃ n : FreeNumeral, n.text = (money x).toList ∧ n.Writes 2 (exactValue x) := by
  rw [money, String.toList_ofList]
  exact exists_writes_fixed hx two_pos

example : money (0.125 : Float) = "0.12" ∧ money (-0.375 : Float) = "-0.38" := by decide

/-- Amounts that are written alike differ by a hundredth at most. -/
theorem abs_sub_le_of_money_eq {x y : Float} (hx : x.isFinite = true) (hy : y.isFinite = true)
    (h : money x = money y) : |exactValue x - exactValue y| ≤ 1 / 100 := by
  obtain ⟨m, hm, hwritesX⟩ := exists_writes_money hx
  obtain ⟨n, hn, hwritesY⟩ := exists_writes_money hy
  have hle := hwritesX.abs_sub_le hwritesY (by rw [hm, hn, h])
  norm_num at hle ⊢
  exact hle

end Scalar

/-- Two amounts of a currency are shown alike exactly if their digits are. -/
theorem Money.inCurrency_inj {α : Type} [Scalar α] {code : String} {x y : α} :
    inCurrency code x = inCurrency code y ↔ Scalar.money x = Scalar.money y := by
  unfold inCurrency
  split_ifs
  · exact String.append_right_inj _
  · exact String.append_right_inj _
  · exact String.append_right_inj _
  · exact String.append_right_inj _
  · exact (String.append_left_inj _).trans (String.append_left_inj _)

end Chargeback
