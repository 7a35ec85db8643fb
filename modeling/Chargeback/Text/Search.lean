/-!
# Comparing, cutting and trimming text

Comparison that ignores the case of ASCII letters, cuts at the occurrences of a character, the search
for one text inside another, and the removal of white space from both ends of a text.
-/

namespace Chargeback.Text

/-- A text with its ASCII letters in lower case and all else as it is. -/
def foldAscii (s : String) : List Char := s.toList.map Char.toLower

/-- Whether two texts differ at most in the case of ASCII letters. -/
def sameLetters (a b : String) : Bool := foldAscii a == foldAscii b

/-- Cuts a text at the first occurrence of a character, which belongs to neither side. -/
def cutAt? (mark : Char) : List Char → Option (List Char × List Char)
  | [] => none
  | c :: rest =>
    if c = mark then some ([], rest)
    else (cutAt? mark rest).map fun (before, after) => (c :: before, after)

/-- Whether the first text stands somewhere inside the second. -/
def occursIn (part : List Char) : List Char → Bool
  | [] => part.isEmpty
  | c :: rest => part.isPrefixOf (c :: rest) || occursIn part rest

/-- Splits a text at every occurrence of a character. -/
def splitAll (mark : Char) : List Char → List (List Char)
  | [] => [[]]
  | c :: rest =>
    if c = mark then [] :: splitAll mark rest
    else match splitAll mark rest with
      | [] => [[c]]
      | first :: others => (c :: first) :: others

/-- Both sides of a cut put together again give the text. -/
theorem eq_of_cutAt? {mark : Char} {s before after : List Char}
    (h : cutAt? mark s = some (before, after)) : s = before ++ mark :: after := by
  induction s generalizing before with
  | nil => simp [cutAt?] at h
  | cons c rest ih =>
    by_cases hc : c = mark
    · simp only [cutAt?, hc, if_true, Option.some.injEq, Prod.mk.injEq] at h
      simp [hc, ← h.1, ← h.2]
    · simp only [cutAt?, hc, if_false, Option.map_eq_some_iff, Prod.mk.injEq] at h
      obtain ⟨⟨b, a⟩, hcut, hb, ha⟩ := h
      simp only at hb ha
      subst hb ha
      simp [ih hcut]

/-! ## White space -/

/-- The Unicode property White_Space. -/
def isBlank (c : Char) : Bool :=
  let n := c.toNat
  (0x9 ≤ n && n ≤ 0xd) || n == 0x20 || n == 0x85 || n == 0xa0 || n == 0x1680 ||
    (0x2000 ≤ n && n ≤ 0x200a) || n == 0x2028 || n == 0x2029 || n == 0x202f || n == 0x205f ||
    n == 0x3000

/-- Removes blanks at the front. -/
def trimStart (s : List Char) : List Char := s.dropWhile isBlank

/-- Removes blanks at the end. -/
def trimEnd (s : List Char) : List Char := (s.reverse.dropWhile isBlank).reverse

/-- Removes blanks at both ends. -/
def trimChars (s : List Char) : List Char := trimEnd (trimStart s)

/-- Removes blanks at both ends of a string. -/
def trim (s : String) : String := String.ofList (trimChars s.toList)

end Chargeback.Text
