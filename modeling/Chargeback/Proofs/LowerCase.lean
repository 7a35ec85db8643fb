import Mathlib.Data.List.Infix
import Chargeback.Text.LowerCase
import Chargeback.Text.Search

/-!
# Lower case inside a longer text

Every character is put into lower case by itself, but for a capital sigma, which takes its final form if a
letter with case stands before it and none stands behind it. Ignorable characters are passed over in this.
The lower case of a part of a text is therefore a part of the lower case of the text as long as the part by
itself shows what its sigmas look for. A sigma at the edge of the part may look in vain; its form is open
then, and there is a text around the part in which it takes the other form.
-/

namespace Chargeback.Text

/-! ## What a sigma looks for -/

/-- Whether the first character that is not ignorable is a letter with case, if there is such a
character. -/
def nearest? : List Char → Option Bool
  | [] => none
  | c :: rest =>
    if inRanges caseIgnorableRanges c.toNat then nearest? rest
    else some (inRanges casedRanges c.toNat)

theorem reachesCased_eq (s : List Char) : reachesCased s = (nearest? s).getD false := by
  induction s with
  | nil => rfl
  | cons c rest ih =>
    rw [reachesCased, nearest?]
    split
    · exact ih
    · rfl

theorem nearest?_append (s t : List Char) : nearest? (s ++ t) = (nearest? s).or (nearest? t) := by
  induction s with
  | nil => rfl
  | cons c rest ih =>
    rw [List.cons_append, nearest?, nearest?]
    split
    · exact ih
    · rfl

theorem nearest?_cons_congr {s t : List Char} (h : nearest? s = nearest? t) (c : Char) :
    nearest? (c :: s) = nearest? (c :: t) := by
  rw [nearest?, nearest?, h]

theorem nearest?_letter {c : Char} (hseen : inRanges caseIgnorableRanges c.toNat = false)
    (hcased : inRanges casedRanges c.toNat = true) (s : List Char) : nearest? (c :: s) = some true := by
  rw [nearest?, hseen, hcased]
  rfl

theorem nearest?_sigma (s : List Char) : nearest? ('Σ' :: s) = some true :=
  nearest?_letter (by decide) (by decide) s

theorem nearest?_a (s : List Char) : nearest? ('a' :: s) = some true :=
  nearest?_letter (by decide) (by decide) s

theorem sigma_notMem_of_nearest? {s : List Char} (h : nearest? s = none) : 'Σ' ∉ s := by
  intro hmem
  obtain ⟨front, back, rfl⟩ := List.append_of_mem hmem
  rw [nearest?_append, nearest?_sigma] at h
  cases hfront : nearest? front <;> rw [hfront] at h <;> cases h

/-- The lower case of a capital sigma, by what is seen before and behind it. -/
def lowerSigma (before after : Option Bool) : Char :=
  if before.getD false && !after.getD false then 'ς' else 'σ'

/-! ## The lower case of a part -/

/-- The lower case of a text that stands between two others. The one in front is read backwards. -/
def lowerBetween (before after : List Char) : List Char → List Char
  | [] => []
  | c :: rest =>
    (if c = 'Σ' then [lowerSigma (nearest? before) (nearest? (rest ++ after))] else lowerChar c) ++
      lowerBetween (c :: before) after rest

theorem lowerAfter_append (before s after : List Char) :
    lowerAfter before (s ++ after) =
      lowerBetween before after s ++ lowerAfter (s.reverse ++ before) after := by
  induction s generalizing before with
  | nil => rfl
  | cons c rest ih =>
    rw [List.cons_append, lowerAfter, lowerBetween, ih, List.reverse_cons, List.append_assoc,
      List.append_assoc, List.singleton_append, reachesCased_eq, reachesCased_eq]
    split <;> rfl

theorem lower_eq_lowerBetween (s : List Char) : lower s = lowerBetween [] [] s := by
  have h := lowerAfter_append [] s []
  rw [List.append_nil] at h
  rw [lower, h]
  exact List.append_nil _

theorem lowerBetween_append (before after s t : List Char) :
    lowerBetween before after (s ++ t) =
      lowerBetween before (t ++ after) s ++ lowerBetween (s.reverse ++ before) after t := by
  induction s generalizing before with
  | nil => rfl
  | cons c rest ih =>
    rw [List.cons_append, lowerBetween, lowerBetween, ih, List.reverse_cons, List.append_assoc,
      List.append_assoc, List.append_assoc, List.singleton_append]

/-- Of what stands around a text, nothing counts but what its sigmas see of it. -/
theorem lowerBetween_congr {before before' after after' : List Char}
    (hbefore : nearest? before = nearest? before') (hafter : nearest? after = nearest? after')
    (s : List Char) : lowerBetween before after s = lowerBetween before' after' s := by
  induction s generalizing before before' with
  | nil => rfl
  | cons c rest ih =>
    rw [lowerBetween, lowerBetween, ih (nearest?_cons_congr hbefore c), hbefore, nearest?_append,
      nearest?_append, hafter]

theorem lowerBetween_of_notMem {s : List Char} (h : 'Σ' ∉ s) (before after : List Char) :
    lowerBetween before after s = lowerEach s := by
  induction s generalizing before with
  | nil => rfl
  | cons c rest ih =>
    rw [List.mem_cons, not_or] at h
    rw [lowerBetween, if_neg (Ne.symm h.1), ih h.2]
    rfl

/-! ## Open sigmas -/

/-- Whether the form of a sigma is open, by what its text shows before and behind it: it is settled by a
character before it that is no letter, by a letter behind it, and where something is seen on both sides. -/
def isOpen : Option Bool → Option Bool → Bool
  | none, some true => false
  | none, _ => true
  | some true, none => true
  | _, _ => false

/-- Whether a text leaves the form of some of its capital sigmas open, given what stands before it. -/
def leavesOpen (before : List Char) : List Char → Bool
  | [] => false
  | c :: rest => (c = 'Σ' && isOpen (nearest? before) (nearest? rest)) || leavesOpen (c :: before) rest

/-- Whether the form of some capital sigma of a text depends on what stands around the text. -/
def hasOpenSigma (s : List Char) : Bool := leavesOpen [] s

/-- A sigma that is not open keeps its form, whatever is seen beyond the edges of its text. -/
theorem lowerSigma_or {before after : Option Bool} (h : isOpen before after = false)
    (front back : Option Bool) :
    lowerSigma (before.or front) (after.or back) = lowerSigma before after := by
  match before, after with
  | none, some true => cases front with | none => rfl | some b => cases b <;> rfl
  | some false, none => rfl
  | some false, some _ => rfl
  | some true, some _ => rfl

/-- A text without open sigmas has the same lower case wherever it stands. -/
theorem lowerBetween_of_not_leavesOpen {before s : List Char} (h : leavesOpen before s = false)
    (front back : List Char) :
    lowerBetween (before ++ front) back s = lowerBetween before [] s := by
  induction s generalizing before with
  | nil => rfl
  | cons c rest ih =>
    rw [leavesOpen, Bool.or_eq_false_iff] at h
    obtain ⟨hc, hrest⟩ := h
    have hhead : c = 'Σ' → lowerSigma (nearest? (before ++ front)) (nearest? (rest ++ back)) =
        lowerSigma (nearest? before) (nearest? (rest ++ [])) := by
      intro hsigma
      have hsettled : isOpen (nearest? before) (nearest? rest) = false := by simpa [hsigma] using hc
      rw [nearest?_append, nearest?_append, List.append_nil]
      exact lowerSigma_or hsettled _ _
    rw [lowerBetween, lowerBetween, ← List.cons_append, ih hrest]
    split
    · rename_i hsigma
      rw [hhead hsigma]
    · rfl

theorem exists_isOpen_of_leavesOpen {before s : List Char} (h : leavesOpen before s = true) :
    ∃ front back, s = front ++ 'Σ' :: back ∧
      isOpen (nearest? (front.reverse ++ before)) (nearest? back) = true := by
  induction s generalizing before with
  | nil => cases h
  | cons c rest ih =>
    rw [leavesOpen, Bool.or_eq_true, Bool.and_eq_true, decide_eq_true_eq] at h
    rcases h with ⟨rfl, hopen⟩ | hrest
    · exact ⟨[], rest, rfl, hopen⟩
    · obtain ⟨front, back, rfl, hopen⟩ := ih hrest
      refine ⟨c :: front, back, rfl, ?_⟩
      rwa [List.reverse_cons, List.append_assoc, List.singleton_append]

/-! ## A text that an open sigma tells apart -/

theorem lowerBetween_around (before after front back : List Char) :
    lowerBetween before after (front ++ 'Σ' :: back) =
      lowerBetween before ('Σ' :: (back ++ after)) front ++
        lowerSigma (nearest? (front.reverse ++ before)) (nearest? (back ++ after)) ::
          lowerBetween ('Σ' :: (front.reverse ++ before)) after back := by
  rw [lowerBetween_append, lowerBetween, if_pos rfl, List.cons_append, List.singleton_append]

theorem not_infix_of_count_lt {x : Char} {s t : List Char} (h : t.count x < s.count x) :
    ¬s <:+: t :=
  fun hoccurs => absurd (hoccurs.sublist.count_le x) (Nat.not_le.mpr h)

/-- A sigma with nothing before it and no letter behind it is not final, but it is behind a letter. -/
theorem not_infix_lower_cons {front back : List Char} (hfront : nearest? front.reverse = none)
    (hback : nearest? back ≠ some true) :
    ¬lower (front ++ 'Σ' :: back) <:+: lower ('a' :: (front ++ 'Σ' :: back)) := by
  have hsigma : 'Σ' ∉ front := by
    have hreverse := sigma_notMem_of_nearest? hfront
    rwa [List.mem_reverse] at hreverse
  have hrest : lowerBetween ('Σ' :: (front.reverse ++ ['a'])) [] back =
      lowerBetween ('Σ' :: (front.reverse ++ [])) [] back :=
    lowerBetween_congr (by rw [nearest?_sigma, nearest?_sigma]) rfl back
  have hform : lowerSigma (nearest? (front.reverse ++ [])) (nearest? (back ++ [])) = 'σ' := by
    rw [List.append_nil, hfront]
    rfl
  have hfinal : lowerSigma (nearest? (front.reverse ++ ['a'])) (nearest? (back ++ [])) = 'ς' := by
    rw [nearest?_append, hfront, nearest?_a, List.append_nil]
    match nearest? back, hback with
    | none, _ => rfl
    | some false, _ => rfl
  have hlower : lower ('a' :: (front ++ 'Σ' :: back)) =
      'a' :: lowerBetween ['a'] [] (front ++ 'Σ' :: back) := by
    rw [lower_eq_lowerBetween]
    rfl
  -- The lower cases differ in nothing but the form of this sigma and the letter in front.
  refine not_infix_of_count_lt (x := 'σ') ?_
  rw [hlower, lower_eq_lowerBetween, lowerBetween_around, lowerBetween_around, hrest, hform, hfinal,
    lowerBetween_of_notMem hsigma, lowerBetween_of_notMem hsigma]
  simp [List.count_append]

/-- A sigma with a letter before it and nothing behind it is final, but it is not in front of a letter. -/
theorem not_infix_lower_append {front back : List Char}
    (hfront : nearest? front.reverse = some true) (hback : nearest? back = none) :
    ¬lower (front ++ 'Σ' :: back) <:+: lower (front ++ 'Σ' :: back ++ ['a']) := by
  have hsigma : 'Σ' ∉ back := sigma_notMem_of_nearest? hback
  have hstart : lowerBetween [] ('Σ' :: (back ++ ['a'])) front =
      lowerBetween [] ('Σ' :: (back ++ [])) front :=
    lowerBetween_congr rfl (by rw [nearest?_sigma, nearest?_sigma]) front
  have hfinal : lowerSigma (nearest? (front.reverse ++ [])) (nearest? (back ++ [])) = 'ς' := by
    rw [List.append_nil, List.append_nil, hfront, hback]
    rfl
  have hform : lowerSigma (nearest? (front.reverse ++ [])) (nearest? (back ++ ['a'])) = 'σ' := by
    rw [nearest?_append back, hback, nearest?_a, List.append_nil, hfront]
    rfl
  have hlast (before : List Char) : lowerBetween before [] ['a'] = ['a'] := rfl
  refine not_infix_of_count_lt (x := 'ς') ?_
  rw [lower_eq_lowerBetween, lower_eq_lowerBetween, lowerBetween_append _ _ _ ['a'], List.append_nil,
    lowerBetween_around, lowerBetween_around, hstart, hfinal, hform, hlast,
    lowerBetween_of_notMem hsigma, lowerBetween_of_notMem hsigma]
  simp [List.count_append]

/-! ## Parts of texts -/

theorem occursIn_iff {part s : List Char} : occursIn part s = true ↔ part <:+: s := by
  induction s with
  | nil => rw [occursIn, List.isEmpty_iff, List.infix_nil]
  | cons c rest ih =>
    rw [occursIn, Bool.or_eq_true, List.isPrefixOf_iff_prefix, ih, List.infix_cons_iff]

/-- A text without open sigmas is found in lower case wherever it occurs. -/
theorem lower_infix_of_not_hasOpenSigma {part s : List Char} (hpart : hasOpenSigma part = false)
    (h : part <:+: s) : lower part <:+: lower s := by
  obtain ⟨front, back, rfl⟩ := h
  have hsame : lowerBetween (front.reverse ++ []) back part = lower part := by
    have h := lowerBetween_of_not_leavesOpen hpart front.reverse back
    rwa [List.nil_append, ← lower_eq_lowerBetween, ← List.append_nil front.reverse] at h
  refine ⟨lowerBetween [] (part ++ back) front, lowerBetween ((front ++ part).reverse ++ []) [] back, ?_⟩
  rw [lower_eq_lowerBetween (front ++ part ++ back), lowerBetween_append, lowerBetween_append,
    List.append_nil back, hsame]

/-- A text with an open sigma is not found in lower case everywhere that it occurs. -/
theorem exists_not_infix_of_hasOpenSigma {part : List Char} (h : hasOpenSigma part = true) :
    ∃ s, part <:+: s ∧ ¬lower part <:+: lower s := by
  obtain ⟨front, back, rfl, hopen⟩ := exists_isOpen_of_leavesOpen h
  rw [List.append_nil] at hopen
  cases hfront : nearest? front.reverse with
  | none =>
    refine ⟨_, List.infix_cons (List.infix_refl _), not_infix_lower_cons hfront fun hback => ?_⟩
    rw [hfront, hback] at hopen
    cases hopen
  | some letter =>
    -- Of the forms that are open, only the one of a sigma with a letter before it is left.
    rw [hfront] at hopen
    match letter, hback : nearest? back, hopen with
    | true, none, _ => exact ⟨_, List.infix_append' [] _ ['a'], not_infix_lower_append hfront hback⟩

end Chargeback.Text
