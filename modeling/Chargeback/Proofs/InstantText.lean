import Chargeback.Instant
import Chargeback.Proofs.Numerals

/-!
# Texts of instants are read back

The text of an instant names this instant. Every part of it has a width that the reader knows, or ends
at a mark that is no digit, and the offset `Z` moves no clock.
-/

namespace Chargeback.Instant

open Number

/-! ## Digits of a width -/

theorem natOfDigits_padded (width n : Nat) : natOfDigits 0 (padded width n) = n :=
  natOfDigits_zeros_append _ n

theorem isDigit_of_mem_padded (width n : Nat) {c : Char} (hc : c ∈ padded width n) :
    c.isDigit = true :=
  (List.mem_append.mp hc).elim isDigit_of_mem_zeros isDigit_of_mem_digitsOf

theorem length_padded {width n : Nat} (hwidth : 0 < width) (hn : n < 10 ^ width) :
    (padded width n).length = width := by
  have hcount : (digitsOf n).length ≤ width :=
    (Nat.length_toDigits_le_iff (by decide) hwidth).mpr hn
  rw [padded, List.length_append, List.length_replicate]
  omega

theorem padded_ne_nil (width n : Nat) : padded width n ≠ [] := by
  simp [padded, digitsOf_ne_nil]

theorem trimStart_cons {c : Char} (hc : Text.isBlank c = false) (s : List Char) :
    Text.trimStart (c :: s) = c :: s := by
  rw [Text.trimStart, List.dropWhile_cons_of_neg (by simp [hc])]

theorem trimStart_padded (width n : Nat) (rest : List Char) :
    Text.trimStart (padded width n ++ rest) = padded width n ++ rest := by
  obtain ⟨c, tail, htext⟩ := List.exists_cons_of_ne_nil (padded_ne_nil width n)
  have hdigit : c.isDigit = true := isDigit_of_mem_padded width n (by simp [htext])
  rw [htext, List.cons_append, trimStart_cons (isBlank_of_isDigit hdigit)]

/-! ## Parts -/

/-- Digits are read up to their greatest number, or up to a mark. -/
theorem readDigits?_padded {most width n : Nat} {rest : List Char}
    (hmost : (padded width n).length ≤ most)
    (hrest : (padded width n).length = most ∨ ∀ c ∈ rest.head?, c.isDigit = false) :
    readDigits? most (padded width n ++ rest) = some (n, rest) := by
  have htaken : ((padded width n ++ rest).take most).takeWhile Char.isDigit = padded width n := by
    rw [List.take_append, List.take_of_length_le hmost,
      List.takeWhile_append_of_pos fun c hc => isDigit_of_mem_padded width n hc]
    rcases hrest with hlength | hstop
    · simp [hlength]
    · cases rest with
      | nil => simp
      | cons c rest =>
        cases most - (padded width n).length with
        | zero => simp
        | succ k => simp [hstop c rfl]
  rw [readDigits?]
  simp only [htaken, padded_ne_nil, if_false, natOfDigits_padded, List.drop_left]

theorem readNat?_padded {n : Nat} (hn : n < 100) (rest : List Char) :
    readNat? 2 (padded 2 n ++ rest) = some (n, rest) := by
  have hlength : (padded 2 n).length = 2 := length_padded (by decide) hn
  rw [readNat?, trimStart_padded]
  exact readDigits?_padded (Nat.le_of_eq hlength) (.inl hlength)

theorem readMark?_cons {mark : Char} (hmark : Text.isBlank mark = false) (rest : List Char) :
    readMark? mark (mark :: rest) = some rest := by
  rw [readMark?, trimStart_cons hmark]
  simp

/-- A year is read up to the hyphen behind it. -/
theorem readYear?_yearText (year : Int) (rest : List Char) :
    readYear? (yearText year ++ '-' :: rest) = some (year, '-' :: rest) := by
  have hhyphen : ∀ c ∈ ('-' :: rest).head?, c.isDigit = false := by
    rintro c ⟨rfl⟩
    decide
  have hsigned : readDigits? (padded 4 year.natAbs ++ '-' :: rest).length
      (padded 4 year.natAbs ++ '-' :: rest) = some (year.natAbs, '-' :: rest) :=
    readDigits?_padded (by simp) (.inr hhyphen)
  rw [yearText]
  split
  · rename_i hyear
    have hlength : (padded 4 year.natAbs).length = 4 := length_padded (by decide) (by omega)
    obtain ⟨c, tail, htext⟩ := List.exists_cons_of_ne_nil (padded_ne_nil 4 year.natAbs)
    have hdigit : c.isDigit = true := isDigit_of_mem_padded 4 year.natAbs (by simp [htext])
    have hread := readDigits?_padded (Nat.le_of_eq hlength) (.inr hhyphen)
    rw [readYear?, trimStart_padded]
    split
    · rename_i heq
      rw [htext] at heq
      cases heq
      cases hdigit
    · rename_i heq
      rw [htext] at heq
      cases heq
      cases hdigit
    · rw [hread]
      simp only [Option.map_some, Option.some.injEq, Prod.mk.injEq, and_true]
      omega
  · by_cases hneg : year < 0
    · rw [if_pos hneg, List.cons_append, readYear?, trimStart_cons (by decide)]
      simp only [hsigned, Option.map_some, Option.some.injEq, Prod.mk.injEq, and_true]
      omega
    · rw [if_neg hneg, List.cons_append, readYear?, trimStart_cons (by decide)]
      simp only [hsigned, Option.map_some, Option.some.injEq, Prod.mk.injEq, and_true]
      omega

/-- A fraction of so many digits is read in nanoseconds. -/
theorem readFraction?_padded {width n : Nat} (hpos : 0 < width) (hwidth : width ≤ 9)
    (hn : n < 10 ^ width) :
    readFraction? ('.' :: padded width n ++ ['Z']) = some (n * 10 ^ (9 - width), ['Z']) := by
  have hlength : (padded width n).length = width := length_padded hpos hn
  have hdigits : (padded width n ++ ['Z']).takeWhile Char.isDigit = padded width n := by
    rw [List.takeWhile_append_of_pos fun c hc => isDigit_of_mem_padded width n hc]
    simp
  have htake : (padded width n).take 9 = padded width n :=
    List.take_of_length_le (by omega)
  have hdrop : (padded width n ++ ['Z']).drop width = ['Z'] := List.drop_left' hlength
  rw [List.cons_append, readFraction?]
  simp only [hdigits, htake, padded_ne_nil, if_false, natOfDigits_padded, hlength, hdrop, Nat.pow_eq]

theorem readFraction?_fractionText {nano : Nat} (hnano : nano < 1000000000) :
    readFraction? (fractionText nano ++ ['Z']) = some (nano, ['Z']) := by
  rw [fractionText]
  split
  · rename_i hzero
    rw [hzero]
    rfl
  split
  · rw [readFraction?_padded (by decide) (by decide) (by omega)]
    simp only [Option.some.injEq, Prod.mk.injEq, and_true]
    omega
  split
  · rw [readFraction?_padded (by decide) (by decide) (by omega)]
    simp only [Option.some.injEq, Prod.mk.injEq, and_true]
    omega
  · rw [readFraction?_padded (by decide) (by decide) hnano]
    simp

/-- The parts of an instant make it up. -/
theorem ofParts?_parts (t : Instant) :
    ofParts? t.year t.month t.day t.hour t.minute t.second t.nano = some t :=
  dif_pos t.valid

/-- A clock of universal time shows the instant itself. -/
theorem ofLocal?_zero (t : Instant) : t.ofLocal? 0 = some t := by
  obtain ⟨-, -, -, -, -, -, hhour, hminute, -, -⟩ := t.valid
  have hday : ((t.hour : Int) * 60 + t.minute - 0) % 1440 = t.hour * 60 + t.minute := by omega
  have hfirst : ¬((t.hour : Int) * 60 + t.minute - 0 < 0) := by omega
  have hlast : ¬(1440 ≤ (t.hour : Int) * 60 + t.minute - 0) := by omega
  have hhours : ((t.hour : Int) * 60 + t.minute).toNat / 60 = t.hour := by omega
  have hminutes : ((t.hour : Int) * 60 + t.minute).toNat % 60 = t.minute := by omega
  rw [ofLocal?]
  simp only [hday, if_neg hfirst, if_neg hlast, hhours, hminutes]
  exact t.ofParts?_parts

/-! ## The whole text -/

theorem bind_eq_some {ι κ : Type} {x : Option ι} {f : ι → Option κ} {a : ι} {b : κ}
    (hx : x = some a) (hf : f a = some b) : x >>= f = some b := by
  rw [hx]
  exact hf

/-- The text of an instant names the instant. -/
theorem parse?_text (t : Instant) : parse? t.text = some t := by
  obtain ⟨-, -, -, hmonth, -, hday, hhour, hminute, hsecond, hnano⟩ := t.valid
  have hdays : daysInMonth t.year t.month ≤ 31 := by
    rw [daysInMonth]
    repeat' split
    all_goals omega
  have htext : t.text.toList = yearText t.year ++ '-' :: (padded 2 t.month ++ '-' ::
      (padded 2 t.day ++ 'T' :: (padded 2 t.hour ++ ':' :: (padded 2 t.minute ++ ':' ::
        (padded 2 t.second ++ (fractionText t.nano ++ ['Z'])))))) := by
    simp [text, minuteText]
  have hhyphen : ∀ rest, readMark? '-' ('-' :: rest) = some rest := readMark?_cons (by decide)
  have hcolon : ∀ rest, readMark? ':' (':' :: rest) = some rest := readMark?_cons (by decide)
  rw [parse?, htext, readChars?]
  -- Each part is read in turn, and the others go on with what follows it.
  refine bind_eq_some (readYear?_yearText t.year _) ?_
  refine bind_eq_some (hhyphen _) (bind_eq_some (readNat?_padded (by omega) _) ?_)
  refine bind_eq_some (hhyphen _) (bind_eq_some (readNat?_padded (by omega) _) ?_)
  refine bind_eq_some rfl (bind_eq_some (readNat?_padded (by omega) _) ?_)
  refine bind_eq_some (hcolon _) (bind_eq_some (readNat?_padded (by omega) _) ?_)
  refine bind_eq_some (hcolon _) (bind_eq_some (readNat?_padded (by omega) _) ?_)
  refine bind_eq_some (readFraction?_fractionText hnano) ?_
  refine bind_eq_some t.ofParts?_parts ?_
  exact t.ofLocal?_zero

end Chargeback.Instant
