import Chargeback.Proofs.Layers
import Chargeback.Proofs.Numerals
import Chargeback.Settings.Basic

/-!
# Values of settings, as they are given and as they are kept

A setting holds a text, a whole number or a double. A file gives it as a value of that kind, and a
variable of the environment as a text that spells one. Either way it is read back as it was given,
with one exception: a whole number that needs all 64 bits is kept as the nearest double, and what is
read is the whole number nearest to that.
-/

namespace Chargeback

open Json Setting

/-! ## Kinds of values -/

namespace Setting

/-- A single value. -/
inductive Value where
  | text (s : String)
  | whole (n : ℕ)
  | number (x : Float)

/-- What a setting can hold. -/
inductive Kind where
  | text
  /-- A whole number below a limit. -/
  | whole (limit : ℕ)
  | number

namespace Kind

/-- The value of this kind that a file gives. -/
def ofJson? : Kind → Json → Option Value
  | text, j => j.str?.map .text
  | whole limit, j => (Json.natBelow? limit j).map .whole
  | number, j => j.float?.map .number

/-- The value of this kind that a variable of the environment gives. A text must not spell anything
else. -/
def ofText? : Kind → String → Option Value
  | text, s => (ofText s).str?.map .text
  | whole limit, s => ((Number.readNatural? s.toList).filter (· < limit)).map .whole
  | number, s => (ofText s).float?.map .number

/-- The value of this kind that is read from the settings. -/
def read? : Kind → Json → Option Value
  | text, j => (text? j).map .text
  | whole limit, j => (natBelow? limit j).map .whole
  | number, j => (float? j).map .number

/-- Whether a limit is that of 64 bits, or lies below 63 bits. -/
def isUsual : Kind → Bool
  | whole limit => limit ≤ 2 ^ 63 || limit = UInt64.size
  | _ => true

end Kind

/-- A value as it is kept: a whole number that needs all 64 bits is kept as the nearest double. -/
def Value.kept : Value → Value
  | whole n => whole (if n < 2 ^ 63 then n else natOfFloat (Json.floatOfInt n))
  | value => value

theorem natOfFloat_lt (x : Float) : natOfFloat x < UInt64.size := by
  have hsize : UInt64.size - 1 < UInt64.size := by decide
  unfold natOfFloat
  split
  · exact (Nat.min_le_right _ _).trans_lt hsize
  · exact hsize
  · decide

theorem narrow_int_of_lt {n : ℕ} (h : n < 2 ^ 63) : narrow (.int n) = .int n := by
  have hpow : Nat.pow 2 63 = 2 ^ 63 := rfl
  rw [narrow, hpow, if_pos (Int.ofNat_lt.mpr h)]

theorem narrow_int_of_le {n : ℕ} (h : 2 ^ 63 ≤ n) :
    narrow (.int n) = .float (Json.floatOfInt n) := by
  have hpow : Nat.pow 2 63 = 2 ^ 63 := rfl
  rw [narrow, hpow, if_neg (Int.not_lt.mpr (Int.ofNat_le.mpr h))]

theorem anyNat?_int_of_lt {n : ℕ} (h : n < 2 ^ 63) : anyNat? (.int n) = some n := by
  rw [anyNat?, narrow_int_of_lt h]
  exact if_pos (Int.natCast_nonneg n)

theorem anyNat?_int_of_le {n : ℕ} (h : 2 ^ 63 ≤ n) :
    anyNat? (.int n) = some (natOfFloat (Json.floatOfInt n)) := by
  rw [anyNat?, narrow_int_of_le h]

theorem anyNat?_int (n : ℕ) :
    anyNat? (.int n) = some (if n < 2 ^ 63 then n else natOfFloat (Json.floatOfInt n)) := by
  split
  · rename_i h
    exact anyNat?_int_of_lt h
  · rename_i h
    exact anyNat?_int_of_le (not_lt.mp h)

theorem Kind.read?_int {limit n : ℕ} (husual : (Kind.whole limit).isUsual = true) (hn : n < limit) :
    (Kind.whole limit).read? (.int n) = some (Value.kept (.whole n)) := by
  rw [isUsual, Bool.or_eq_true, decide_eq_true_eq, decide_eq_true_eq] at husual
  have hlimit : (if n < 2 ^ 63 then n else natOfFloat (Json.floatOfInt n)) < limit := by
    split
    · exact hn
    · rename_i hlarge
      rw [husual.resolve_left fun hle => hlarge (hn.trans_le hle)]
      exact natOfFloat_lt _
  rw [read?, natBelow?, anyNat?_int, Option.filter_some, if_pos (decide_eq_true hlimit)]
  rfl

theorem float?_eq_of_float? {j : Json} {x : Float} (h : j.float? = some x) :
    Setting.float? j = some x := by
  cases j with
  | int n =>
    have hnarrow : narrow (.int n) = .int n ∨ narrow (.int n) = .float (Json.floatOfInt n) := by
      rw [narrow]
      exact ite_eq_or_eq _ _ _
    rw [Setting.float?]
    rcases hnarrow with hnarrow | hnarrow
    · rw [hnarrow]
      exact h
    · rw [hnarrow]
      exact h
  | float y => exact h
  | _ => cases h

theorem Kind.isObject_eq_false_of_ofJson? {kind : Kind} {j : Json}
    (h : (kind.ofJson? j).isSome = true) : j.isObject = false := by
  cases j with
  | obj fields => cases kind <;> cases h
  | _ => rfl

/-- What a file gives is read as it is kept. -/
theorem Kind.read?_of_ofJson? {kind : Kind} (husual : kind.isUsual = true) {j : Json} {value : Value}
    (h : kind.ofJson? j = some value) : kind.read? j = some value.kept := by
  cases kind with
  | text =>
    obtain ⟨s, hs, rfl⟩ := Option.map_eq_some_iff.mp h
    cases j with
    | str t => exact h
    | _ => cases hs
  | number =>
    obtain ⟨x, hx, rfl⟩ := Option.map_eq_some_iff.mp h
    rw [read?, float?_eq_of_float? hx]
    rfl
  | whole limit =>
    obtain ⟨n, hn, rfl⟩ := Option.map_eq_some_iff.mp h
    cases j with
    | int m =>
      rw [Json.natBelow?] at hn
      split at hn
      · rename_i hm
        obtain ⟨k, rfl⟩ := Int.eq_ofNat_of_zero_le hm.1
        obtain rfl : k = n := Option.some.inj hn
        exact read?_int husual (Int.ofNat_lt.mp hm.2)
      · cases hn
    | _ => cases hn

/-! ## Natural numbers in the environment -/

theorem toNat_of_isDigit {c : Char} (h : c.isDigit = true) : 48 ≤ c.toNat ∧ c.toNat ≤ 57 :=
  Char.isDigit_iff_toNat.mp h

theorem toLower_of_isDigit {c : Char} (h : c.isDigit = true) : c.toLower = c := by
  refine Char.toLower_eq_of_not_isUpper fun hupper => ?_
  have hle : 65 ≤ c.toNat := (of_decide_eq_true hupper).1
  have hdigit := toNat_of_isDigit h
  omega

theorem lowerChar_of_lt {c : Char} (h : c.toNat < 65) : Text.lowerChar c = [c] := by
  have hfind : Text.caseRuns.find? (fun r => c.toNat ≤ r.last) = some ⟨0x41, 0x5a, 1, 32⟩ := by
    have hlast : c.toNat ≤ 0x5a := by omega
    rw [Text.caseRuns, List.find?_cons, decide_eq_true hlast]
  rw [Text.lowerChar, hfind]
  simp only
  rw [if_neg (by omega), if_neg (by omega)]

/-- A text that starts with a digit or a sign is no word. -/
theorem head?_lower {c : Char} (h : c.toNat < 65) (rest : List Char) :
    (Text.lower (c :: rest)).head? = some c := by
  have hsigma : c ≠ 'Σ' := by
    rintro rfl
    exact absurd h (by decide)
  rw [Text.lower, Text.lowerAfter, if_neg hsigma, lowerChar_of_lt h]
  rfl

theorem toFloat_natural (n : ℕ) :
    (Number.Spelling.decimal ⟨false, n, 0⟩).toFloat = Json.floatOfInt n := by
  have hexponent : max (-(Number.digitCount n : ℤ) - 400) (min 400 0) = 0 := by omega
  have hsign : decide ((n : ℤ) < 0) = false := decide_eq_false (Int.natCast_nonneg n).not_gt
  show Number.Decimal.toFloat ⟨false, n, 0⟩ = _
  rw [Number.Decimal.toFloat, Json.floatOfInt, hexponent, hsign]
  show Number.nearest false (n * 1) 1 = _
  rw [mul_one, Int.natAbs_natCast]

/-- The text of a natural number, whose sign and digits are known. -/
structure IsNatural (s : List Char) (n : ℕ) (digits : List Char) : Prop where
  digits_ne_nil : digits ≠ []
  isDigit : ∀ c ∈ digits, c.isDigit = true
  value : Number.natOfDigits 0 digits = n
  text : s = digits ∨ s = '+' :: digits

theorem exists_isNatural {s : List Char} {n : ℕ} (h : Number.readNatural? s = some n) :
    ∃ digits, IsNatural s n digits := by
  unfold Number.readNatural? at h
  extract_lets digits at h
  split at h
  · rename_i hdigits
    refine ⟨digits, hdigits.1, List.all_eq_true.mp hdigits.2, Option.some.inj h, ?_⟩
    simp only [digits]
    split
    · rename_i hsign
      obtain ⟨rest, rfl⟩ := List.head?_eq_some_iff.mp hsign
      exact .inr rfl
    · exact .inl rfl
  · cases h

namespace IsNatural

variable {s digits : List Char} {n : ℕ} (h : IsNatural s n digits)

include h

theorem exists_head : ∃ c rest, digits = c :: rest ∧ c.isDigit = true := by
  obtain ⟨c, rest, hcons⟩ := List.exists_cons_of_ne_nil h.digits_ne_nil
  exact ⟨c, rest, hcons, h.isDigit c (hcons ▸ List.mem_cons_self)⟩

theorem splitSign_eq : Number.splitSign s = (false, digits) := by
  rcases h.text with rfl | rfl
  · obtain ⟨c, rest, rfl, hc⟩ := h.exists_head
    have hdigit := toNat_of_isDigit hc
    unfold Number.splitSign
    split
    · rename_i heq
      cases heq
      exact absurd hdigit (by decide)
    · rename_i heq
      cases heq
      exact absurd hdigit (by decide)
    · rfl
  · rfl

/-- No word is spelled like a natural number. -/
theorem lower_ne {word : String} (hword : ∀ c ∈ word.toList.head?, 65 ≤ c.toNat) :
    String.ofList (Text.lower s) ≠ word := by
  have hhead : ∃ c, (Text.lower s).head? = some c ∧ c.toNat < 65 := by
    rcases h.text with rfl | rfl
    · obtain ⟨c, rest, rfl, hc⟩ := h.exists_head
      have hlt : c.toNat < 65 := (toNat_of_isDigit hc).2.trans_lt (by decide)
      exact ⟨c, head?_lower hlt rest, hlt⟩
    · exact ⟨'+', head?_lower (by decide) digits, by decide⟩
  rintro rfl
  obtain ⟨c, hc, hlt⟩ := hhead
  rw [String.toList_ofList] at hword
  exact absurd (hword c hc) (by omega)

theorem wholeOfText?_eq : ofText.wholeOfText? s = if n < 2 ^ 63 then some (n : ℤ) else none := by
  have hdigits : digits ≠ [] ∧ digits.all Char.isDigit = true :=
    ⟨h.digits_ne_nil, List.all_eq_true.mpr h.isDigit⟩
  have hpow : Nat.pow 2 63 = 2 ^ 63 := rfl
  have hleast : -((2 ^ 63 : ℕ) : ℤ) ≤ (n : ℤ) := by omega
  rw [ofText.wholeOfText?, h.splitSign_eq]
  simp only [if_pos hdigits, h.value, hpow, hleast, true_and, Int.ofNat_lt, Bool.false_eq_true,
    if_false]

theorem readSpelling?_eq : Number.readSpelling? s = some (.decimal ⟨false, n, 0⟩) := by
  have hlower : digits.map Char.toLower = digits :=
    (List.map_congr_left fun c hc => toLower_of_isDigit (h.isDigit c hc)).trans (List.map_id _)
  have hword {word : String} (hword : ∀ c ∈ word.toList.head?, 65 ≤ c.toNat) :
      String.ofList digits ≠ word := by
    rintro rfl
    obtain ⟨c, rest, rfl, hc⟩ := h.exists_head
    rw [String.toList_ofList] at hword
    have hdigit := toNat_of_isDigit hc
    exact absurd (hword c rfl) (by omega)
  have hsplit : Number.splitDigits digits = (digits, []) := by
    have happend : Number.splitDigits (digits ++ []) = (digits, []) :=
      Number.splitDigits_append h.isDigit fun c hc => by cases hc
    rwa [List.append_nil] at happend
  have hmagnitude : Number.readMagnitude? false digits = some ⟨false, n, 0⟩ := by
    have hplaces (k : ℕ) : Number.natOfDigits k [] = k := rfl
    rw [Number.readMagnitude?, hsplit]
    simp [Number.splitPlaces, Number.readExponent?, h.digits_ne_nil, h.value, hplaces]
  rw [Number.readSpelling?, h.splitSign_eq]
  simp only [hlower, hmagnitude]
  have hinf : String.ofList digits ≠ "inf" := hword (by simp)
  have hinfinity : String.ofList digits ≠ "infinity" := hword (by simp)
  have hnan : String.ofList digits ≠ "nan" := hword (by simp)
  rw [if_neg (not_or.mpr ⟨hinf, hinfinity⟩), if_neg hnan]
  rfl

/-- The text of a natural number stands for itself, or for the nearest double if it needs all 64
bits. -/
theorem read?_ofText {t : String} (ht : t.toList = s) {limit : ℕ}
    (husual : (Kind.whole limit).isUsual = true) (hn : n < limit) :
    (Kind.whole limit).read? (ofText t) = some (Value.kept (.whole n)) := by
  subst ht
  have htrue : String.ofList (Text.lower t.toList) ≠ "true" := h.lower_ne (by simp)
  have hfalse : String.ofList (Text.lower t.toList) ≠ "false" := h.lower_ne (by simp)
  rw [ofText]
  simp only [if_neg htrue, if_neg hfalse, h.wholeOfText?_eq]
  by_cases hsmall : n < 2 ^ 63
  · simp only [if_pos hsmall]
    exact Kind.read?_int husual hn
  · have hlarge : anyNat? (.float (Json.floatOfInt n)) = anyNat? (.int n) :=
      (anyNat?_int_of_le (not_lt.mp hsmall)).symm
    simp only [if_neg hsmall, h.readSpelling?_eq]
    have hread := Kind.read?_int husual hn
    rw [Kind.read?, natBelow?] at hread
    rw [toFloat_natural, Kind.read?, natBelow?, hlarge, hread]

end IsNatural

/-- What a variable of the environment gives is read as it is kept. -/
theorem Kind.read?_of_ofText? {kind : Kind} (husual : kind.isUsual = true) {s : String}
    {value : Value} (h : kind.ofText? s = some value) :
    kind.read? (ofText s) = some value.kept := by
  cases kind with
  | text => exact read?_of_ofJson? husual h
  | number => exact read?_of_ofJson? husual h
  | whole limit =>
    obtain ⟨n, hn, rfl⟩ := Option.map_eq_some_iff.mp h
    obtain ⟨hread, hlimit⟩ := Option.filter_eq_some_iff.mp hn
    obtain ⟨digits, hdigits⟩ := exists_isNatural hread
    exact hdigits.read?_ofText rfl husual (of_decide_eq_true hlimit)

theorem isObject_ofText (s : String) : (ofText s).isObject = false := by
  unfold ofText
  extract_lets word
  split_ifs
  · rfl
  · rfl
  · split
    · rfl
    · split <;> rfl

end Setting

end Chargeback
