import Chargeback.Proofs.ShortestDoubles

/-!
# Texts of strings and numbers are read back

White space in front of a value is passed over, a string is read back from its escapes, and a whole
number of 64 bits stays whole. A finite double is read back from the fewest digits that name it, and any
other double is written, and read, as nothing.
-/

namespace Chargeback.Json

open Number

/-! ## White space -/

theorem skipSpace_newLine (level : Nat) (s : List Char) :
    skipSpace (newLine level ++ s) = skipSpace s := by
  have hspace : ∀ c ∈ newLine level, isSpace c = true := by
    intro c hc
    rcases List.mem_cons.mp hc with rfl | hc
    · rfl
    · rw [List.eq_of_mem_replicate hc]
      rfl
  exact List.dropWhile_append_of_pos hspace

theorem skipSpace_skipSpace (s : List Char) : skipSpace (skipSpace s) = skipSpace s :=
  List.dropWhile_idempotent isSpace s

theorem skipSpace_cons {c : Char} (hc : isSpace c = false) (s : List Char) :
    skipSpace (c :: s) = c :: s := by
  rw [skipSpace, List.dropWhile_cons_of_neg (by simp [hc])]

/-- White space in front of a value is passed over. -/
theorem readValue?_of_skipSpace_eq {s t : List Char} (h : skipSpace s = skipSpace t)
    (fuel depth : Nat) : readValue? fuel depth s = readValue? fuel depth t := by
  cases fuel with
  | zero => rw [readValue?, readValue?]
  | succ fuel => rw [readValue?, readValue?, h]

/-! ## Strings -/

theorem hexValue?_digitChar : ∀ n < 16, hexValue? (Nat.digitChar n) = some n := by decide

/-- The code of a control character is read as the character. -/
theorem readCode?_of_lt {n : Nat} (hn : n < 0x20) (rest : List Char) :
    readCode? ('0' :: '0' :: Nat.digitChar (n / 16) :: Nat.digitChar (n % 16) :: rest) =
      some (some (Char.ofNat n), rest) := by
  have hhigh := hexValue?_digitChar (n / 16) (by omega)
  have hlow := hexValue?_digitChar (n % 16) (by omega)
  have hunit : readUnit? ('0' :: '0' :: Nat.digitChar (n / 16) :: Nat.digitChar (n % 16) :: rest) =
      some (n, rest) := by
    simp only [readUnit?, show hexValue? '0' = some 0 from rfl, hhigh, hlow, Option.bind_eq_bind,
      Option.bind_some, Option.pure_def, Option.some.injEq, Prod.mk.injEq, and_true]
    omega
  have hbelow : ¬(0xd800 ≤ n ∧ n < 0xdc00) := by omega
  have hbelow' : ¬(0xdc00 ≤ n ∧ n < 0xe000) := by omega
  simp only [readCode?, hunit, Option.bind_eq_bind, Option.bind_some, if_neg hbelow,
    if_neg hbelow', Option.pure_def]

/-- What an escape says behind its backslash. -/
theorem readEscape?_escapeChar {c : Char} (hc : c = '"' ∨ c = '\\' ∨ c.toNat < 0x20) :
    ∃ code, escapeChar c = '\\' :: code ∧
      ∀ rest, readEscape? (code ++ rest) = some (some c, rest) := by
  rw [escapeChar]
  have hback : ∀ {n : Nat}, c.toNat = n → Char.ofNat n = c := fun h => h ▸ Char.ofNat_toNat c
  split
  · rename_i h; exact ⟨_, rfl, fun rest => by rw [h]; rfl⟩
  split
  · rename_i h; exact ⟨_, rfl, fun rest => by rw [h]; rfl⟩
  split
  · rename_i hlow
    split
    · rename_i h; exact ⟨_, rfl, fun rest => by rw [← hback h]; rfl⟩
    split
    · rename_i h; exact ⟨_, rfl, fun rest => by rw [← hback h]; rfl⟩
    split
    · rename_i h; exact ⟨_, rfl, fun rest => by rw [← hback h]; rfl⟩
    split
    · rename_i h; exact ⟨_, rfl, fun rest => by rw [← hback h]; rfl⟩
    split
    · rename_i h; exact ⟨_, rfl, fun rest => by rw [← hback h]; rfl⟩
    · refine ⟨_, rfl, fun rest => ?_⟩
      have hcode := readCode?_of_lt hlow rest
      rwa [Char.ofNat_toNat] at hcode
  · rename_i hquote hslash hlow
    exact absurd hc (by simp [hquote, hslash, hlow])

/-- A character of a string is read back, and the string goes on. -/
theorem readChars?_escapeChar (fuel : Nat) (c : Char) (rest : List Char) :
    readChars? (fuel + 1) (escapeChar c ++ rest) =
      (readChars? fuel rest).map fun (chars, rest) => (chars.map (c :: ·), rest) := by
  by_cases hc : c = '"' ∨ c = '\\' ∨ c.toNat < 0x20
  · obtain ⟨code, hcode, hread⟩ := readEscape?_escapeChar hc
    rw [hcode, List.cons_append, readChars?]
    simp only [hread, Option.bind_eq_bind, Option.bind_some]
    cases readChars? fuel rest <;> rfl
  · obtain ⟨hquote, hslash, hlow⟩ : c ≠ '"' ∧ c ≠ '\\' ∧ ¬c.toNat < 0x20 := by
      simpa only [not_or] using hc
    rw [escapeChar, if_neg hquote, if_neg hslash, if_neg hlow, List.singleton_append, readChars?,
      if_neg hquote, if_neg hslash, if_neg hlow]
    cases readChars? fuel rest <;> rfl

theorem readChars?_text (chars : List Char) {fuel : Nat} (hfuel : chars.length < fuel)
    (rest : List Char) :
    readChars? fuel (chars.flatMap escapeChar ++ '"' :: rest) = some (some chars, rest) := by
  induction chars generalizing fuel with
  | nil =>
    obtain ⟨fuel, rfl⟩ := Nat.exists_eq_add_of_lt hfuel
    simp [readChars?]
  | cons c chars ih =>
    cases fuel with
    | zero => cases hfuel
    | succ fuel =>
      rw [List.flatMap_cons, List.append_assoc, readChars?_escapeChar,
        ih (Nat.lt_of_succ_lt_succ hfuel)]
      rfl

theorem length_le_flatMap_escapeChar (chars : List Char) :
    chars.length ≤ (chars.flatMap escapeChar).length := by
  have hone : ∀ c, 1 ≤ (escapeChar c).length := by
    intro c
    rw [escapeChar]
    repeat' split
    all_goals simp
  induction chars with
  | nil => exact Nat.zero_le _
  | cons c chars ih =>
    have := hone c
    rw [List.flatMap_cons, List.length_append, List.length_cons]
    omega

/-- A string is read back behind its opening quote. -/
theorem readString?_stringText (s : String) (rest : List Char) :
    readString? (s.toList.flatMap escapeChar ++ '"' :: rest) = some (some s, rest) := by
  have hfuel : s.toList.length < (s.toList.flatMap escapeChar ++ '"' :: rest).length + 1 := by
    have := length_le_flatMap_escapeChar s.toList
    rw [List.length_append]
    omega
  rw [readString?, readChars?_text s.toList hfuel]
  simp

/-! ## Numbers -/

/-- A numeral, perhaps behind a minus sign, is read as a number. -/
theorem readValue?_signed (negative : Bool) (n : Numeral) (fuel depth : Nat) {rest : List Char}
    (hrest : EndsNumber rest) :
    readValue? (fuel + 1) depth (Decimal.signed negative n.text ++ rest) =
      some (numberOf negative n.whole n.places n.power, rest) := by
  cases negative with
  | true =>
    rw [Decimal.signed, if_pos rfl, List.cons_append, readValue?,
      skipSpace_cons (by decide)]
    exact n.readNumber?_text true hrest
  | false =>
    obtain ⟨lead, others, hwhole⟩ := List.exists_cons_of_ne_nil n.whole_ne_nil
    have hdigit : lead.isDigit = true := n.isDigit_whole lead (by simp [hwhole])
    obtain ⟨tail, htext⟩ : ∃ tail, n.text ++ rest = lead :: tail := by
      simp [Numeral.text, hwhole]
    have hother : ∀ c : Char, c.isDigit = false → lead ≠ c := by
      rintro c hc rfl
      rw [hdigit] at hc
      cases hc
    have hspace : isSpace lead = false := by
      simp [isSpace, hother ' ' rfl, hother '\n' rfl, hother '\r' rfl, hother '\t' rfl]
    have hread := n.readNumber?_text false hrest
    rw [Decimal.signed, if_neg Bool.false_ne_true, htext, readValue?, skipSpace_cons hspace]
    rw [htext] at hread
    simp only [hother '"' rfl, hother '[' rfl, hother '\x7b' rfl, hother '-' rfl, hdigit, if_true,
      if_false, hread]

/-- A finite double is read back, and any other is read as nothing, wherever it stands. -/
theorem readValue?_floatText (x : Float) (fuel depth : Nat) {rest : List Char}
    (hrest : EndsNumber rest) :
    readValue? (fuel + 1) depth (floatText x ++ rest) = some (ofFloat x, rest) := by
  rw [ofFloat]
  split
  · rename_i hfinite
    obtain ⟨negative, n, htext, hvalue⟩ := exists_numeral_floatText hfinite
    rw [htext, readValue?_signed negative n fuel depth hrest, hvalue]
  · rename_i hfinite
    rw [floatText_of_not_isFinite hfinite]
    simp [readValue?, skipSpace, isSpace, readWord?, strip?]

/-- A whole number of 64 bits stays whole. -/
theorem readValue?_intText {n : Int} (hleast : -2 ^ 63 ≤ n) (hmost : n < 2 ^ 64) (fuel depth : Nat)
    {rest : List Char} (hrest : EndsNumber rest) :
    readValue? (fuel + 1) depth (intText n ++ rest) = some (.int n, rest) := by
  obtain ⟨m, htext, hplaces, hpower⟩ := exists_numeral_natural n.natAbs
  have hwhole : m.whole = digitsOf n.natAbs := by
    rw [← htext, Numeral.text, hplaces, hpower]
    simp [Numeral.powerText]
  have hsize : UInt64.size = 2 ^ 64 := rfl
  rw [intText, ← htext, readValue?_signed _ m fuel depth hrest, numberOf, hplaces, hpower, hwhole,
    natOfDigits_digitsOf]
  by_cases hneg : n < 0
  · have hpositive : 0 < n.natAbs ∧ n.natAbs ≤ Nat.pow 2 63 := by
      rw [Nat.pow_eq]
      omega
    simp [hneg, hpositive, abs_of_neg hneg]
  · have hbelow : n.natAbs < UInt64.size := by omega
    have hvalue : (n.natAbs : Int) = n := by omega
    simp [hneg, hbelow, hvalue]

end Chargeback.Json
