import Mathlib.Data.List.DropRight
import Chargeback.Rule.Field

/-!
# Texts of fields are read back

A field that is read from a text has a text of its own, in one spelling, and this text is read as the
same field. Blanks play a part in it: the key of a tag may begin with them, but no field that is read
ends with one, so that removing blanks does not change the text of a field again.
-/

namespace Chargeback

namespace Text

/-! ## Texts without blanks around them -/

/-- A text neither begins nor ends with a blank. -/
structure IsTrimmed (s : List Char) : Prop where
  first : ∀ c ∈ s.head?, isBlank c = false
  last : ∀ c ∈ s.getLast?, isBlank c = false

theorem isTrimmed_trimChars (s : List Char) : IsTrimmed (trimChars s) := by
  constructor
  · intro c hc
    -- What is left begins like the text whose end is removed.
    have hprefix : trimChars s <+: trimStart s := List.rdropWhile_prefix isBlank (trimStart s)
    obtain ⟨removed, hremoved⟩ := hprefix
    have hfirst : (trimStart s).head? = some c := by
      rw [← hremoved, List.head?_append, hc]
      rfl
    have hnot := List.head?_dropWhile_not isBlank s
    unfold trimStart at hfirst
    rw [hfirst] at hnot
    exact hnot
  · intro c hc
    have hnot := List.head?_dropWhile_not isBlank (trimStart s).reverse
    unfold trimChars trimEnd at hc
    rw [List.getLast?_reverse] at hc
    rw [hc] at hnot
    exact hnot

theorem IsTrimmed.trimChars_eq {s : List Char} (h : IsTrimmed s) : trimChars s = s := by
  have hstart : trimStart s = s := by
    cases s with
    | nil => rfl
    | cons c rest => exact List.dropWhile_cons_of_neg (by simp [h.first c rfl])
  have hend : trimEnd s = s := by
    refine List.rdropWhile_eq_self_iff.mpr ?_
    intro hne
    have hlast := h.last (s.getLast hne) (List.getLast?_eq_some_getLast hne)
    simp [hlast]
  rw [trimChars, hstart, hend]

theorem trim_trim (s : String) : trim (trim s) = trim s := by
  have htrimmed := (isTrimmed_trimChars s.toList).trimChars_eq
  rw [trim, trim, String.toList_ofList, htrimmed]

end Text

namespace Field

/-- A field depends on its text only as far as blanks around it go. -/
theorem parse_trim (raw : String) : parse (Text.trim raw) = parse raw := by
  unfold parse
  rw [Text.trim_trim]

theorem parse_text_ofAttribute (a : Attribute) :
    parse (text (.ofAttribute a)) = .ofAttribute a := by
  cases a <;> rfl

/-- A key that does not end with a blank is read back. -/
theorem parse_text_tag {key : String} (hne : key.toList ≠ [])
    (hlast : ∀ c ∈ key.toList.getLast?, Text.isBlank c = false) :
    parse (text (.tag key)) = .tag key := by
  have hchars : (text (.tag key)).toList = 't' :: 'a' :: 'g' :: '.' :: key.toList := by
    simp [text]
  have htrimmed : Text.IsTrimmed (text (.tag key)).toList := by
    rw [hchars]
    constructor
    · rintro c ⟨rfl⟩
      rfl
    · intro c hc
      refine hlast c ?_
      simpa [List.getLast?_cons, List.getLast?_eq_some_getLast hne] using hc
  have htrim : Text.trim (text (.tag key)) = text (.tag key) := by
    rw [Text.trim, htrimmed.trimChars_eq, String.ofList_toList]
  have hpair : Text.sameLetters (text (.tag key)) "tags" = false := by
    rw [Text.sameLetters, Text.foldAscii, hchars]
    rfl
  have hkey : tagKey? (text (.tag key)).toList = some key := by
    have hcut : Text.cutAt? '.' (text (.tag key)).toList = some (['t', 'a', 'g'], key.toList) := by
      rw [hchars]
      rfl
    have hannounces : Text.sameLetters (String.ofList ['t', 'a', 'g']) "tag" = true := rfl
    rw [tagKey?, hcut]
    simp [hannounces, hne]
  unfold parse
  simp only [htrim, hpair, hkey]
  rfl

/-- The key of a tag is the end of the text that it is read from. -/
theorem getLast?_of_tagKey? {s : List Char} {key : String} (h : tagKey? s = some key) :
    key.toList ≠ [] ∧ key.toList.getLast? = s.getLast? := by
  rw [tagKey?] at h
  split at h
  · rename_i before rest hcut
    simp only at h
    split at h
    · rename_i hrest
      obtain rfl := Option.some.inj h
      have hne : rest ≠ [] := hrest.2
      rw [Text.eq_of_cutAt? hcut, String.toList_ofList]
      refine ⟨hne, ?_⟩
      rw [List.getLast?_append, List.getLast?_cons, List.getLast?_eq_some_getLast hne]
      rfl
    · cases h
  · cases h

/-- The text of a field that was read is read as this field. -/
theorem parse_text_parse (raw : String) : parse (parse raw).text = parse raw := by
  have htrimmed : Text.IsTrimmed (Text.trim raw).toList := by
    rw [Text.trim, String.toList_ofList]
    exact Text.isTrimmed_trimChars raw.toList
  by_cases hpair : Text.sameLetters (Text.trim raw) "tags" = true
  · have hparse : parse raw = .tagPair := by
      unfold parse
      exact if_pos hpair
    rw [hparse]
    rfl
  cases hkey : tagKey? (Text.trim raw).toList with
  | some key =>
    have hparse : parse raw = .tag key := by
      unfold parse
      simp only [if_neg hpair, hkey]
    obtain ⟨hne, hlast⟩ := getLast?_of_tagKey? hkey
    rw [hparse]
    refine parse_text_tag hne ?_
    rw [hlast]
    exact htrimmed.last
  | none =>
    cases hattribute : Attribute.parse? (Text.trim raw) with
    | some a =>
      have hparse : parse raw = .ofAttribute a := by
        unfold parse
        simp only [if_neg hpair, hkey, hattribute]
      rw [hparse]
      exact parse_text_ofAttribute a
    | none =>
      have hparse : parse raw = .unknown (Text.trim raw) := by
        unfold parse
        simp only [if_neg hpair, hkey, hattribute]
      rw [hparse]
      show parse (Text.trim raw) = _
      rw [parse_trim, hparse]

end Field

end Chargeback
