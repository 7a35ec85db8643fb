import Chargeback.Proofs.RoundTrip

/-!
# Numbers in free text

What counts as the text of a number where people type it: a sign or none, digits in front of a point,
behind it or on both sides, and perhaps an exponent. `FreeNumeral` holds the parts of such a text, and
the reader of decimals accepts exactly the texts that are put together from such parts.

A lenient number takes what a value gives: the number itself, or the number that a text spells when the
blanks around it are cut off. If nothing is given, or nothing finite, it is zero.
-/

namespace Chargeback

namespace Number

/-! ## Signs and exponents -/

/-- A sign that may be left out. -/
inductive FreeSign where
  | absent
  | plus
  | minus
deriving DecidableEq

namespace FreeSign

def text : FreeSign → List Char
  | absent => []
  | plus => ['+']
  | minus => ['-']

def isNegative : FreeSign → Bool
  | minus => true
  | _ => false

end FreeSign

/-- A text starts with no sign. -/
def IsUnsigned (s : List Char) : Prop := ∀ c ∈ s.head?, c ≠ '+' ∧ c ≠ '-'

theorem isUnsigned_of_isDigit {s : List Char} (h : ∀ c ∈ s.head?, c.isDigit = true) :
    IsUnsigned s := by
  intro c hc
  have hdigit := h c hc
  constructor
  · rintro rfl
    exact absurd hdigit (by decide)
  · rintro rfl
    exact absurd hdigit (by decide)

theorem splitSign_text (sign : FreeSign) {rest : List Char} (h : IsUnsigned rest) :
    splitSign (sign.text ++ rest) = (sign.isNegative, rest) := by
  cases sign with
  | absent =>
    cases rest with
    | nil => rfl
    | cons c rest =>
      obtain ⟨hplus, hminus⟩ := h c rfl
      show splitSign (c :: rest) = (false, c :: rest)
      rw [splitSign]
      · exact fun _ heq => hplus (List.cons.inj heq).1
      · exact fun _ heq => hminus (List.cons.inj heq).1
  | plus => rfl
  | minus => rfl

theorem exists_sign (s : List Char) : ∃ sign : FreeSign,
    s = sign.text ++ (splitSign s).2 ∧ (splitSign s).1 = sign.isNegative := by
  unfold splitSign
  split
  · exact ⟨.plus, rfl, rfl⟩
  · exact ⟨.minus, rfl, rfl⟩
  · exact ⟨.absent, rfl, rfl⟩

/-- An exponent: a mark, a sign and digits. -/
structure FreePower where
  mark : Char
  sign : FreeSign
  digits : List Char
  mark_eq : mark = 'e' ∨ mark = 'E'
  digits_ne_nil : digits ≠ []
  isDigit_digits : ∀ c ∈ digits, c.isDigit = true

namespace FreePower

def text (p : FreePower) : List Char := p.mark :: (p.sign.text ++ p.digits)

def value (p : FreePower) : Int :=
  if p.sign.isNegative then -(natOfDigits 0 p.digits : Int) else natOfDigits 0 p.digits

theorem readExponent?_text (p : FreePower) : readExponent? p.text = some p.value := by
  have hunsigned : IsUnsigned p.digits :=
    isUnsigned_of_isDigit fun c hc => p.isDigit_digits c (List.mem_of_mem_head? hc)
  have hall : p.digits.all Char.isDigit = true := List.all_eq_true.mpr p.isDigit_digits
  rw [text, readExponent?, if_pos p.mark_eq, splitSign_text p.sign hunsigned]
  simp only [ne_eq, p.digits_ne_nil, not_false_eq_true, hall, and_self, if_true]
  rfl

end FreePower

/-- What is read as an exponent is nothing at all or an exponent. -/
theorem exists_of_readExponent? {s : List Char} {e : Int} (h : readExponent? s = some e) :
    ∃ power : Option FreePower, (power.map FreePower.text).getD [] = s ∧
      (power.map FreePower.value).getD 0 = e := by
  cases s with
  | nil => exact ⟨none, rfl, Option.some.inj h⟩
  | cons mark rest =>
    obtain ⟨sign, htext, hnegative⟩ := exists_sign rest
    rcases hsplit : splitSign rest with ⟨negative, digits⟩
    rw [hsplit] at htext hnegative
    rw [readExponent?, hsplit] at h
    by_cases hmark : mark = 'e' ∨ mark = 'E'
    · rw [if_pos hmark] at h
      by_cases hdigits : digits ≠ [] ∧ digits.all Char.isDigit = true
      · refine ⟨some ⟨mark, sign, digits, hmark, hdigits.1, List.all_eq_true.mp hdigits.2⟩, ?_, ?_⟩
        · show mark :: (sign.text ++ digits) = mark :: rest
          rw [← htext]
        · show (if sign.isNegative then -(natOfDigits 0 digits : Int) else natOfDigits 0 digits) = e
          rw [← hnegative]
          exact Option.some.inj ((if_pos hdigits).symm.trans h)
      · exact absurd ((if_neg hdigits).symm.trans h) (by simp)
    · rw [if_neg hmark] at h
      cases h

/-! ## Numerals -/

/-- The parts of the text of a number. -/
structure FreeNumeral where
  sign : FreeSign
  /-- The digits in front of the point. -/
  whole : List Char
  hasPoint : Bool
  /-- The digits behind the point. -/
  places : List Char
  power : Option FreePower
  isDigit_whole : ∀ c ∈ whole, c.isDigit = true
  isDigit_places : ∀ c ∈ places, c.isDigit = true
  hasDigits : ¬(whole = [] ∧ places = [])
  places_eq_nil : hasPoint = false → places = []

namespace FreeNumeral

/-- The text of the places and the exponent. -/
def tail (n : FreeNumeral) : List Char :=
  (if n.hasPoint then '.' :: n.places else []) ++ (n.power.map FreePower.text).getD []

def text (n : FreeNumeral) : List Char := n.sign.text ++ (n.whole ++ n.tail)

/-- The number that is spelled. -/
def decimal (n : FreeNumeral) : Decimal :=
  ⟨n.sign.isNegative, natOfDigits 0 (n.whole ++ n.places),
    (n.power.map FreePower.value).getD 0 - n.places.length⟩

theorem readExponent?_power (n : FreeNumeral) :
    readExponent? ((n.power.map FreePower.text).getD []) =
      some ((n.power.map FreePower.value).getD 0) := by
  cases n.power with
  | none => rfl
  | some p => exact p.readExponent?_text

/-- An exponent starts with its mark. -/
theorem head?_power (n : FreeNumeral) :
    ∀ c ∈ ((n.power.map FreePower.text).getD []).head?, c.isDigit = false ∧ c ≠ '.' := by
  cases n.power with
  | none =>
    intro c hc
    cases hc
  | some p =>
    rintro c ⟨rfl⟩
    rcases p.mark_eq with hmark | hmark
    · rw [hmark]
      decide
    · rw [hmark]
      decide

/-- Where the digits in front of the point end, a point, an exponent or nothing follows. -/
theorem head?_tail (n : FreeNumeral) : ∀ c ∈ n.tail.head?, c.isDigit = false := by
  intro c hc
  unfold tail at hc
  by_cases hpoint : n.hasPoint = true
  · rw [if_pos hpoint] at hc
    obtain rfl : '.' = c := Option.some.inj hc
    decide
  · rw [if_neg hpoint] at hc
    exact (n.head?_power c hc).1

theorem splitPlaces_tail (n : FreeNumeral) :
    splitPlaces n.tail = (n.places, (n.power.map FreePower.text).getD []) := by
  unfold tail
  by_cases hpoint : n.hasPoint = true
  · rw [if_pos hpoint]
    exact splitDigits_append n.isDigit_places fun c hc => (n.head?_power c hc).1
  · rw [if_neg hpoint, n.places_eq_nil (Bool.eq_false_of_not_eq_true hpoint), List.nil_append]
    have hhead := n.head?_power
    generalize (n.power.map FreePower.text).getD [] = power at hhead ⊢
    cases power with
    | nil => rfl
    | cons c rest =>
      rw [splitPlaces]
      exact fun _ heq => (hhead c rfl).2 (List.cons.inj heq).1

/-- A number that starts with no digit starts with its point. -/
theorem isUnsigned_whole_tail (n : FreeNumeral) : IsUnsigned (n.whole ++ n.tail) := by
  intro c hc
  rcases hwhole : n.whole with _ | ⟨d, rest⟩
  · have hplaces : n.places ≠ [] := fun h => n.hasDigits ⟨hwhole, h⟩
    have hpoint : n.hasPoint = true :=
      Bool.eq_true_of_not_eq_false fun h => hplaces (n.places_eq_nil h)
    rw [hwhole, tail, if_pos hpoint] at hc
    obtain rfl : '.' = c := Option.some.inj hc
    decide
  · rw [hwhole] at hc
    obtain rfl : d = c := Option.some.inj hc
    have hdigit : d.isDigit = true := n.isDigit_whole d (hwhole ▸ List.mem_cons_self)
    exact isUnsigned_of_isDigit (s := [d]) (by simpa using hdigit) d rfl

theorem readDecimal?_text (n : FreeNumeral) : readDecimal? n.text = some n.decimal := by
  have hwhole : splitDigits (n.whole ++ n.tail) = (n.whole, n.tail) :=
    splitDigits_append n.isDigit_whole n.head?_tail
  rw [text, readDecimal?, splitSign_text n.sign n.isUnsigned_whole_tail]
  simp only [readMagnitude?, hwhole, splitPlaces_tail, if_neg n.hasDigits, readExponent?_power,
    Option.map_some, ← natOfDigits_append]
  rfl

end FreeNumeral

/-- What follows the digits in front of the point is a point with digits or no point at all. -/
theorem exists_of_splitPlaces {s places rest : List Char} (h : splitPlaces s = (places, rest)) :
    ∃ hasPoint : Bool, s = (if hasPoint then '.' :: places else []) ++ rest ∧
      (hasPoint = false → places = []) ∧ ∀ c ∈ places, c.isDigit = true := by
  unfold splitPlaces at h
  split at h
  · rename_i behind
    obtain ⟨rfl, rfl⟩ := Prod.mk.inj h
    refine ⟨true, ?_, fun h => absurd h (by decide), fun c hc => List.mem_takeWhile_imp hc⟩
    rw [if_pos rfl, List.cons_append, List.takeWhile_append_dropWhile]
  · obtain ⟨rfl, rfl⟩ := Prod.mk.inj h
    refine ⟨false, rfl, fun _ => rfl, fun c hc => ?_⟩
    cases hc

/-- What is read as a number behind its sign is a numeral with this sign. -/
theorem exists_of_readMagnitude? {sign : FreeSign} {s : List Char} {d : Decimal}
    (h : readMagnitude? sign.isNegative s = some d) :
    ∃ n : FreeNumeral, n.text = sign.text ++ s ∧ n.decimal = d := by
  have hwhole : ∀ c ∈ s.takeWhile Char.isDigit, c.isDigit = true :=
    fun c hc => List.mem_takeWhile_imp hc
  rcases hsplit : splitPlaces (s.dropWhile Char.isDigit) with ⟨places, rest⟩
  obtain ⟨hasPoint, hpoint, hnoPoint, hplaces⟩ := exists_of_splitPlaces hsplit
  simp only [readMagnitude?, splitDigits, hsplit] at h
  by_cases hdigits : s.takeWhile Char.isDigit = [] ∧ places = []
  · rw [if_pos hdigits] at h
    cases h
  · rw [if_neg hdigits] at h
    obtain ⟨e, he, rfl⟩ := Option.map_eq_some_iff.mp h
    obtain ⟨power, rfl, rfl⟩ := exists_of_readExponent? he
    refine ⟨⟨sign, _, hasPoint, places, power, hwhole, hplaces, hdigits, hnoPoint⟩, ?_, ?_⟩
    · rw [FreeNumeral.text, FreeNumeral.tail, ← hpoint, List.takeWhile_append_dropWhile]
    · rw [FreeNumeral.decimal, natOfDigits_append]

/-- The reader of decimals accepts the texts of numerals and gives the numbers that they spell. -/
theorem readDecimal?_eq_some_iff {s : List Char} {d : Decimal} :
    readDecimal? s = some d ↔ ∃ n : FreeNumeral, n.text = s ∧ n.decimal = d := by
  constructor
  · intro h
    obtain ⟨sign, hsign, hnegative⟩ := exists_sign s
    have hmagnitude : readMagnitude? sign.isNegative (splitSign s).2 = some d := hnegative ▸ h
    rw [hsign]
    exact exists_of_readMagnitude? hmagnitude
  · rintro ⟨n, rfl, rfl⟩
    exact n.readDecimal?_text

end Number

/-! ## Lenient numbers -/

namespace Json

/-- A value gives a number: it is one, or a text that spells one between blanks. -/
inductive Gives : Json → Float → Prop where
  | int (n : Int) : Gives (.int n) (floatOfInt n)
  | float (x : Float) : Gives (.float x) x
  | text (s : String) (n : Number.FreeNumeral) (spelled : n.text = Text.trimChars s.toList) :
    Gives (.str s) n.decimal.toFloat

theorem parse?_eq_some_iff {s : String} {x : Float} :
    Scalar.parse? s = some x ↔ Gives (.str s) x ∧ x.isFinite = true := by
  rw [Scalar.parse?]
  constructor
  · intro h
    split at h
    · rename_i d hd
      obtain ⟨n, hn, rfl⟩ := Number.readDecimal?_eq_some_iff.mp hd
      obtain ⟨hfinite, hx⟩ := Option.ite_none_right_eq_some.mp h
      obtain rfl : n.decimal.toFloat = x := Option.some.inj hx
      exact ⟨.text s n hn, hfinite⟩
    · cases h
  · rintro ⟨hgives, hfinite⟩
    cases hgives with
    | text s n spelled =>
      rw [← spelled, n.readDecimal?_text]
      exact if_pos hfinite

/-- A lenient number is the number that is given. -/
theorem lenientFloat_of_gives {v : Json} {x : Float} (h : v.Gives x) (hx : x.isFinite = true) :
    lenientFloat v = x := by
  cases h with
  | int n => rfl
  | float x => rw [lenientFloat, if_pos hx]
  | text s n spelled =>
    rw [lenientFloat, parse?_eq_some_iff.mpr ⟨.text s n spelled, hx⟩, Option.getD_some]

/-- Where no finite number is given, a lenient number is zero. -/
theorem lenientFloat_of_forall_gives {v : Json} (hv : Printable v)
    (h : ∀ x, v.Gives x → x.isFinite = false) : lenientFloat v = 0.0 := by
  cases hv with
  | int least most =>
    have hfinite := isFinite_floatOfInt least most
    rw [h _ (.int _)] at hfinite
    cases hfinite
  | float x =>
    rw [lenientFloat, if_neg (by rw [h x (.float x)]; decide)]
  | str s =>
    rw [lenientFloat]
    cases hparse : Scalar.parse? (α := Float) s with
    | none => rfl
    | some x =>
      obtain ⟨hgives, hfinite⟩ := parse?_eq_some_iff.mp hparse
      rw [h x hgives] at hfinite
      cases hfinite
  | _ => rfl

end Json

end Chargeback
