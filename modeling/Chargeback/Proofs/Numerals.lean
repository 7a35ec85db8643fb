import Mathlib
import Chargeback.Json.Printer
import Chargeback.Json.Reader
import Chargeback.Text.Search

/-!
# Numbers that are written and read

A natural number reads back from its digits. A number of a document is written as a `Numeral`: digits,
perhaps places behind a point, perhaps a power of ten. The reader takes a numeral as a whole, if no
part of a number follows it, and finds the same digits again: a decimal is written with its own digits,
or with zeros behind them that its exponent makes up for.
-/

namespace Chargeback.Number

/-! ## Digits -/

theorem natOfDigits_eq_ofDigitChars (start : Nat) (s : List Char) :
    natOfDigits start s = Nat.ofDigitChars 10 s start :=
  Nat.ofDigitChars_eq_foldl.symm

@[simp]
theorem natOfDigits_digitsOf (n : Nat) : natOfDigits 0 (digitsOf n) = n := by
  rw [natOfDigits_eq_ofDigitChars, digitsOf, Nat.ofDigitChars_ten_toDigits]

theorem natText_injective : Function.Injective natText := by
  intro m n h
  have hlist := congrArg String.toList h
  have hdigits : digitsOf m = digitsOf n := by
    unfold natText at hlist
    rwa [String.toList_ofList, String.toList_ofList] at hlist
  rw [← natOfDigits_digitsOf m, hdigits, natOfDigits_digitsOf]

theorem natOfDigits_append (start : Nat) (s t : List Char) :
    natOfDigits start (s ++ t) = natOfDigits (natOfDigits start s) t :=
  List.foldl_append

theorem natOfDigits_zeros (start count : Nat) :
    natOfDigits start (List.replicate count '0') = start * 10 ^ count := by
  rw [natOfDigits_eq_ofDigitChars, Nat.ofDigitChars_replicate_zero, Nat.mul_comm]

/-- Zeros in front of a number do not count. -/
theorem natOfDigits_zeros_append (count n : Nat) :
    natOfDigits 0 (List.replicate count '0' ++ digitsOf n) = n := by
  rw [natOfDigits_append, natOfDigits_zeros, Nat.zero_mul, natOfDigits_digitsOf]

theorem isDigit_of_mem_digitsOf {n : Nat} {c : Char} (hc : c ∈ digitsOf n) : c.isDigit = true :=
  Nat.isDigit_of_mem_toDigits (by decide) (by decide) hc

theorem isDigit_of_mem_zeros {count : Nat} {c : Char} (hc : c ∈ List.replicate count '0') :
    c.isDigit = true := by
  rw [List.eq_of_mem_replicate hc]
  rfl

/-- Digits are no blanks. -/
theorem isBlank_of_isDigit {c : Char} (hc : c.isDigit = true) : Text.isBlank c = false := by
  have hrange : 48 ≤ c.toNat ∧ c.toNat ≤ 57 := by
    simpa [Char.isDigit, UInt32.le_iff_toNat_le] using hc
  simp only [Text.isBlank, Bool.or_eq_false_iff, Bool.and_eq_false_iff, decide_eq_false_iff_not,
    beq_eq_false_iff_ne]
  omega

theorem digitsOf_ne_nil (n : Nat) : digitsOf n ≠ [] := Nat.toDigits_ne_nil

theorem digitCount_pos (n : Nat) : 0 < digitCount n := Nat.length_toDigits_pos

/-- The first digit of a positive number is no zero. -/
theorem head?_digitsOf {n : Nat} (hn : n ≠ 0) : (digitsOf n).head? ≠ some '0' := by
  induction n using Nat.strongRecOn with
  | ind n ih =>
    rw [digitsOf, Nat.toDigits_eq_if (by decide)]
    split
    · rename_i hlt
      have hdigit : ∀ m < 10, m ≠ 0 → m.digitChar ≠ '0' := by decide
      simpa using hdigit n hlt hn
    · have hlead := ih (n / 10) (by omega) (by omega)
      rwa [List.head?_append, Option.or_of_isSome (by simp [Nat.toDigits_ne_nil])]

/-- Digits are split off up to where they end. -/
theorem splitDigits_append {digits rest : List Char} (hdigits : ∀ c ∈ digits, c.isDigit = true)
    (hrest : ∀ c ∈ rest.head?, c.isDigit = false) :
    splitDigits (digits ++ rest) = (digits, rest) := by
  have hstop : rest.takeWhile Char.isDigit = [] ∧ rest.dropWhile Char.isDigit = rest := by
    cases rest with
    | nil => exact ⟨rfl, rfl⟩
    | cons c rest => simp [hrest c rfl]
  rw [splitDigits, List.takeWhile_append_of_pos hdigits, List.dropWhile_append_of_pos hdigits,
    hstop.1, hstop.2, List.append_nil]

/-! ## Numerals -/

/-- The parts of the text of a number without its sign. -/
structure Numeral where
  /-- The digits in front of the point. -/
  whole : List Char
  /-- The digits behind the point; without any there is no point. -/
  places : List Char
  power : Option Int
  whole_ne_nil : whole ≠ []
  isDigit_whole : ∀ c ∈ whole, c.isDigit = true
  isDigit_places : ∀ c ∈ places, c.isDigit = true
  /-- A zero in front stands alone. -/
  lead : whole.head? = some '0' → whole.length = 1

namespace Numeral

/-- The text of the power of a numeral. -/
def powerText : Option Int → List Char
  | none => []
  | some e => 'e' :: (if e < 0 then '-' else '+') :: digitsOf e.natAbs

/-- The text of a numeral. -/
def text (n : Numeral) : List Char :=
  n.whole ++ ((if n.places = [] then [] else '.' :: n.places) ++ powerText n.power)

/-- The decimal that a numeral spells. -/
def decimal (n : Numeral) (negative : Bool) : Decimal :=
  ⟨negative, natOfDigits (natOfDigits 0 n.whole) n.places, n.power.getD 0 - n.places.length⟩

end Numeral

/-- A text that no part of a number starts. -/
def EndsNumber (rest : List Char) : Prop :=
  ∀ c ∈ rest.head?, c.isDigit = false ∧ c ≠ '.' ∧ c ≠ 'e' ∧ c ≠ 'E'

theorem readPower?_powerText (power : Option Int) {rest : List Char} (hrest : EndsNumber rest) :
    Json.readPower? (Numeral.powerText power ++ rest) = some (power, rest) := by
  cases power with
  | none =>
    cases rest with
    | nil => rfl
    | cons c rest =>
      obtain ⟨-, -, he, hE⟩ := hrest c rfl
      simp [Numeral.powerText, Json.readPower?, he, hE]
  | some e =>
    have hsplit : splitDigits (digitsOf e.natAbs ++ rest) = (digitsOf e.natAbs, rest) :=
      splitDigits_append (fun _ => isDigit_of_mem_digitsOf) fun c hc => (hrest c hc).1
    by_cases hneg : e < 0
    · have hvalue : -(e.natAbs : Int) = e := by omega
      simp only [Numeral.powerText, hneg, if_true, List.cons_append, Json.readPower?, true_or,
        splitSign, hsplit, digitsOf_ne_nil, if_false, natOfDigits_digitsOf, hvalue]
    · have hvalue : (e.natAbs : Int) = e := by omega
      simp only [Numeral.powerText, hneg, List.cons_append, Json.readPower?, true_or, if_true,
        splitSign, hsplit, digitsOf_ne_nil, if_false, natOfDigits_digitsOf, hvalue,
        Bool.false_eq_true]

theorem head?_powerText (power : Option Int) {rest : List Char} (hrest : EndsNumber rest) :
    ∀ c ∈ (Numeral.powerText power ++ rest).head?, c.isDigit = false ∧ c ≠ '.' := by
  cases power with
  | none => exact fun c hc => ⟨(hrest c hc).1, (hrest c hc).2.1⟩
  | some e =>
    rintro c ⟨rfl⟩
    decide

theorem readPlaces?_append {places rest : List Char} (hplaces : ∀ c ∈ places, c.isDigit = true)
    (hrest : ∀ c ∈ rest.head?, c.isDigit = false ∧ c ≠ '.') :
    Json.readPlaces? ((if places = [] then [] else '.' :: places) ++ rest) =
      some (places, rest) := by
  by_cases hnil : places = []
  · subst hnil
    cases rest with
    | nil => rfl
    | cons c rest =>
      rw [if_pos rfl, List.nil_append, Json.readPlaces?]
      intro rest' h
      exact (hrest c rfl).2 (List.cons.inj h).1
  · have hsplit := splitDigits_append hplaces fun c hc => (hrest c hc).1
    simp [hnil, Json.readPlaces?, hsplit]

/-- A numeral is read as a whole, if no part of a number follows it. -/
theorem Numeral.readNumber?_text (n : Numeral) (negative : Bool) {rest : List Char}
    (hrest : EndsNumber rest) :
    Json.readNumber? negative (n.text ++ rest) =
      some (Json.numberOf negative n.whole n.places n.power, rest) := by
  have hpower := head?_powerText n.power hrest
  have hwhole : splitDigits (n.text ++ rest) = (n.whole,
      (if n.places = [] then [] else '.' :: n.places) ++ (powerText n.power ++ rest)) := by
    rw [text, List.append_assoc, List.append_assoc]
    refine splitDigits_append n.isDigit_whole ?_
    by_cases hnil : n.places = []
    · simpa only [hnil, if_true, List.nil_append] using fun c hc => (hpower c hc).1
    · simp [hnil]
  have hlead : ¬(n.whole = [] ∨ n.whole.head? = some '0' ∧ n.whole.length ≠ 1) := by
    rintro (h | ⟨h, hlength⟩)
    · exact n.whole_ne_nil h
    · exact hlength (n.lead h)
  rw [Json.readNumber?, hwhole]
  simp only [hlead, if_false, readPlaces?_append n.isDigit_places hpower, Option.bind_eq_bind,
    Option.bind_some, readPower?_powerText n.power hrest]
  rfl

/-- A numeral with a point or a power is read as a double. -/
theorem Numeral.numberOf_eq (n : Numeral) (negative : Bool)
    (h : n.places ≠ [] ∨ n.power ≠ none) :
    Json.numberOf negative n.whole n.places n.power =
      if (n.decimal negative).toFloat.isFinite then .float (n.decimal negative).toFloat
      else .unusable := by
  have hwhole : ¬(n.places = [] ∧ n.power = none) := fun ⟨hplaces, hpower⟩ =>
    h.elim (· hplaces) (· hpower)
  rw [Json.numberOf, if_neg fun h => hwhole ⟨h.1, h.2.1⟩, if_neg fun h => hwhole ⟨h.1, h.2.1⟩]
  rfl

/-! ## Decimals as numerals -/

namespace Numeral

/-- A numeral is the text of a double, and spells the digits of a decimal, perhaps with zeros behind
them that the exponent makes up for. -/
structure Spells (n : Numeral) (d : Decimal) : Prop where
  fractional : n.places ≠ [] ∨ n.power ≠ none
  decimal_eq : ∃ zeros : Nat, n.decimal d.negative =
    ⟨d.negative, d.digits * 10 ^ zeros, d.exponent - zeros⟩

/-- The numeral of digits that a power of ten, if not a point, marks as those of a double. -/
theorem Spells.of_digits {n : Numeral} {d : Decimal} (hfractional : n.places ≠ [] ∨ n.power ≠ none)
    (hdigits : natOfDigits 0 (n.whole ++ n.places) = d.digits)
    (hexponent : n.power.getD 0 - n.places.length = d.exponent) : n.Spells d := by
  refine ⟨hfractional, 0, ?_⟩
  rw [decimal, ← natOfDigits_append, hdigits, hexponent]
  simp

end Numeral

variable {d : Decimal}

/-- Digits with zeros behind them and one place. -/
theorem exists_numeral_of_exponent_nonneg (hd : d.digits ≠ 0 ∨ d.exponent = 0)
    (h : 0 ≤ d.exponent) :
    ∃ n : Numeral, n.text = d.positional ['.', '0'] ∧ n.Spells d := by
  have hlead : (digitsOf d.digits ++ List.replicate d.exponent.toNat '0').head? = some '0' →
      (digitsOf d.digits ++ List.replicate d.exponent.toNat '0').length = 1 := by
    rcases hd with hd | hd
    · rw [List.head?_append, Option.or_of_isSome (by simp [digitsOf_ne_nil])]
      exact fun hzero => absurd hzero (head?_digitsOf hd)
    · by_cases hzero : d.digits = 0
      · simp [hd, hzero, digitsOf]
      · simp [hd, head?_digitsOf hzero]
  have hdigit : ∀ c ∈ digitsOf d.digits ++ List.replicate d.exponent.toNat '0',
      c.isDigit = true := fun c hc =>
    (List.mem_append.mp hc).elim isDigit_of_mem_digitsOf isDigit_of_mem_zeros
  refine ⟨⟨_, ['0'], none, by simp [digitsOf_ne_nil], hdigit, by simp, hlead⟩, ?_, by simp,
    d.exponent.toNat + 1, ?_⟩
  · simp [Numeral.text, Numeral.powerText, Decimal.positional, h]
  · rw [Numeral.decimal, natOfDigits_append, natOfDigits_zeros, natOfDigits_digitsOf]
    have hplace : natOfDigits (d.digits * 10 ^ d.exponent.toNat) ['0'] =
        d.digits * 10 ^ (d.exponent.toNat + 1) := by
      rw [Nat.pow_succ, ← Nat.mul_assoc, Nat.mul_comm _ 10]
      rfl
    have hexponent : ((none : Option Int).getD 0 - (['0'].length : Nat)) =
        d.exponent - ((d.exponent.toNat + 1 : Nat) : Int) := by
      simp only [Option.getD_none, List.length_singleton]
      omega
    rw [hplace, hexponent]

/-- Digits with a point among them. -/
theorem exists_numeral_of_point_pos (h : d.exponent < 0) (hpoint : 0 < d.point) :
    ∃ n : Numeral, n.text = d.positional ['.', '0'] ∧ n.Spells d := by
  have hnonzero : d.digits ≠ 0 := by
    intro hzero
    rw [Decimal.point, hzero, show digitCount 0 = 1 from rfl] at hpoint
    omega
  have hlength : d.point.toNat < (digitsOf d.digits).length := by
    rw [Decimal.point, digitCount] at hpoint ⊢
    omega
  have htake : d.point.toNat ≠ 0 := by omega
  have hlead : ((digitsOf d.digits).take d.point.toNat).head? ≠ some '0' := by
    rw [List.head?_take, if_neg htake]
    exact head?_digitsOf hnonzero
  have hdrop : (digitsOf d.digits).drop d.point.toNat ≠ [] := by
    rw [Ne, List.drop_eq_nil_iff]
    omega
  refine ⟨⟨_, _, none, by simp [digitsOf_ne_nil, htake],
    fun c hc => isDigit_of_mem_digitsOf (List.mem_of_mem_take hc),
    fun c hc => isDigit_of_mem_digitsOf (List.mem_of_mem_drop hc), fun hc => absurd hc hlead⟩, ?_,
    .of_digits (.inl hdrop) ?_ ?_⟩
  · simp [Numeral.text, Numeral.powerText, Decimal.positional, hdrop, hpoint, Int.not_le.mpr h]
  · rw [List.take_append_drop, natOfDigits_digitsOf]
  · rw [List.length_drop, Option.getD_none]
    rw [Decimal.point, digitCount] at hpoint hlength ⊢
    omega

/-- A zero, a point, and the digits behind zeros. -/
theorem exists_numeral_of_point_nonpos (h : d.exponent < 0) (hpoint : d.point ≤ 0) :
    ∃ n : Numeral, n.text = d.positional ['.', '0'] ∧ n.Spells d := by
  have hdigit : ∀ c ∈ List.replicate (-d.point).toNat '0' ++ digitsOf d.digits,
      c.isDigit = true := fun c hc =>
    (List.mem_append.mp hc).elim isDigit_of_mem_zeros isDigit_of_mem_digitsOf
  refine ⟨⟨['0'], _, none, by simp, by simp, hdigit, by simp⟩, ?_,
    .of_digits (.inl (by simp [digitsOf_ne_nil])) ?_ ?_⟩
  · simp [Numeral.text, Numeral.powerText, Decimal.positional, digitsOf_ne_nil, Int.not_le.mpr h,
      Int.not_lt.mpr hpoint]
  · exact natOfDigits_zeros_append _ d.digits
  · rw [List.length_append, List.length_replicate, Option.getD_none]
    rw [Decimal.point, digitCount] at hpoint ⊢
    omega

/-- One digit, the others behind a point, and an exponent. -/
theorem exists_numeral_scientific (d : Decimal) :
    ∃ n : Numeral, n.text = d.scientific ∧ n.Spells d := by
  obtain ⟨lead, rest, hdigits⟩ := List.exists_cons_of_ne_nil (digitsOf_ne_nil d.digits)
  have hdigit : ∀ c ∈ lead :: rest, c.isDigit = true := fun c hc =>
    isDigit_of_mem_digitsOf (hdigits ▸ hc)
  refine ⟨⟨[lead], rest, some (d.point - 1), by simp, by simp [hdigit],
    fun c hc => hdigit c (List.mem_cons_of_mem _ hc), by simp⟩, ?_, .of_digits (.inr (by simp)) ?_ ?_⟩
  · cases rest <;> simp [Numeral.text, Numeral.powerText, Decimal.scientific, hdigits]
  · rw [List.singleton_append, ← hdigits, natOfDigits_digitsOf]
  · simp only [Option.getD_some, Decimal.point, digitCount, hdigits, List.length_cons]
    omega

/-- In positions or with an exponent, a decimal is written as a numeral that spells it. -/
theorem exists_numeral_magnitude (hd : d.digits ≠ 0 ∨ d.exponent = 0) (inPositions : Prop)
    [Decidable inPositions] :
    ∃ n : Numeral, n.text = (if inPositions then d.positional ['.', '0'] else d.scientific) ∧
      n.Spells d := by
  split
  · by_cases h : 0 ≤ d.exponent
    · exact exists_numeral_of_exponent_nonneg hd h
    · by_cases hpoint : 0 < d.point
      · exact exists_numeral_of_point_pos (Int.not_le.mp h) hpoint
      · exact exists_numeral_of_point_nonpos (Int.not_le.mp h) (Int.not_lt.mp hpoint)
  · exact exists_numeral_scientific d

/-- The numeral of a natural number. -/
theorem exists_numeral_natural (n : Nat) :
    ∃ m : Numeral, m.text = digitsOf n ∧ m.places = [] ∧ m.power = none := by
  have hlead : (digitsOf n).head? = some '0' → (digitsOf n).length = 1 := by
    by_cases hzero : n = 0
    · simp [hzero, digitsOf]
    · exact fun h => absurd h (head?_digitsOf hzero)
  exact ⟨⟨digitsOf n, [], none, digitsOf_ne_nil n, fun _ => isDigit_of_mem_digitsOf, by simp, hlead⟩,
    by simp [Numeral.text, Numeral.powerText], rfl, rfl⟩

end Chargeback.Number
