import Mathlib
import Chargeback.Proofs.Fields
import Chargeback.Proofs.Names

/-!
# How profiles are addressed

A key is looked up among the identifiers first and among the names second. Along every sequence of
changes that gives new identifiers to new profiles, the identifiers stay pairwise different and so
do the names, blanks around them and the case of ASCII letters aside. So an identifier addresses its
own profile. A name does so too, unless another profile has that very text as its identifier.

The check of names removes blanks around them and the lookup does not. So a name that the check has
refused is a key only if one of the profiles that have it is stored without blanks around its name, or
if it is an identifier.
-/

namespace Chargeback

namespace Store

variable {α : Type}

/-! ## Distinct keys -/

/-- No two profiles have the same identifier, and no two have the same name. -/
structure HasKeys (s : Store α) : Prop where
  ids : s.profiles.Pairwise fun p q => p.id ≠ q.id
  names : s.profiles.Pairwise fun p q => sameName p.name q.name = false

theorem HasKeys.id_ne {s : Store α} (h : s.HasKeys) {i j : Fin s.profiles.length} (hij : i ≠ j) :
    (s.profiles.get i).id ≠ (s.profiles.get j).id :=
  pairwise_get_of_ne Ne.symm h.ids hij

theorem HasKeys.sameName_eq_false {s : Store α} (h : s.HasKeys) {i j : Fin s.profiles.length}
    (hij : i ≠ j) : sameName (s.profiles.get i).name (s.profiles.get j).name = false :=
  DistinctNames.get_of_ne h.names hij

/-! ## Looking up -/

variable {s : Store α}

theorem HasKeys.position?_id (h : s.HasKeys) (j : Fin s.profiles.length) :
    s.position? (s.profiles.get j).id = some j := by
  have hfind : s.profiles.findFinIdx? (fun p => p.id == (s.profiles.get j).id) = some j := by
    rw [List.findFinIdx?_eq_some_iff]
    refine ⟨beq_self_eq_true _, fun k hk hkey => ?_⟩
    exact h.id_ne (Fin.ne_of_lt hk) (eq_of_beq hkey)
  rw [position?, hfind]
  rfl

/-- A name that no profile has as its identifier addresses its own profile. -/
theorem HasKeys.position?_name (h : s.HasKeys) (i : Fin s.profiles.length)
    (hi : ∀ j : Fin s.profiles.length, (s.profiles.get j).id ≠ (s.profiles.get i).name) :
    s.position? (s.profiles.get i).name = some i := by
  have hnone : s.profiles.findFinIdx? (fun p => p.id == (s.profiles.get i).name) = none := by
    rw [List.findFinIdx?_eq_none_iff]
    intro p hp hkey
    obtain ⟨j, hj, rfl⟩ := List.mem_iff_getElem.mp hp
    exact hi ⟨j, hj⟩ (eq_of_beq hkey)
  have hfind : s.profiles.findFinIdx?
      (fun p => Text.sameLetters p.name (s.profiles.get i).name) = some i := by
    rw [List.findFinIdx?_eq_some_iff]
    refine ⟨Text.sameLetters_iff.mpr rfl, fun k hk hkey => ?_⟩
    have hsame : sameName (s.profiles.get k).name (s.profiles.get i).name = true :=
      sameName_of_sameLetters hkey
    rw [h.sameName_eq_false (Fin.ne_of_lt hk)] at hsame
    cases hsame
  rw [position?, hnone, hfind]
  rfl

/-! ## Changes keep the keys apart -/

variable [Scalar α] {id : String} {now : Instant}

theorem HasKeys.of_becomes (h : s.HasKeys) {c : Change α} {t : Store α}
    (hfresh : ∀ edited, c = .create edited → ∀ p ∈ s.profiles, p.id ≠ id)
    (ht : s.Becomes id now c t) : t.HasKeys := by
  refine ⟨?_, DistinctNames.of_becomes h.names ht⟩
  cases ht with
  | @create edited valid free => exact pairwise_append_singleton h.ids (hfresh edited rfl)
  | @update key edited i found valid free => exact pairwise_set Ne.symm h.ids i fun j hj => h.id_ne hj
  | @move key target i found step valid => exact pairwise_set Ne.symm h.ids i fun j hj => h.id_ne hj
  | @delete key i found => exact h.ids.sublist (List.eraseIdx_sublist _ _)

/-- Every profile that is created gets an identifier that no profile has then. -/
def GivesNewIds : Store α → List (Attempt α) → Prop
  | _, [] => True
  | s, a :: rest =>
    (∀ edited, a.change = .create edited → ∀ p ∈ s.profiles, p.id ≠ a.freshId) ∧
      GivesNewIds (a.after s) rest

theorem HasKeys.after (h : s.HasKeys) {a : Attempt α}
    (hfresh : ∀ edited, a.change = .create edited → ∀ p ∈ s.profiles, p.id ≠ a.freshId) :
    (a.after s).HasKeys := by
  rw [Attempt.after]
  cases ht : a.result? s with
  | none => exact h
  | some t => exact h.of_becomes hfresh (Attempt.becomes_of_result? ht)

theorem HasKeys.run (h : s.HasKeys) {attempts : List (Attempt α)}
    (hnew : s.GivesNewIds attempts) : (s.run attempts).HasKeys := by
  induction attempts generalizing s with
  | nil => exact h
  | cons a rest ih => exact ih (h.after hnew.1) hnew.2

/-! ## The result -/

/-- Whatever is attempted from a store with distinct identifiers and names: the name of a profile
addresses that profile exactly if no other one has it as its identifier, and else it addresses the
one that has. -/
theorem position?_name_of_run (hs : s.HasKeys) (attempts : List (Attempt α))
    (hnew : s.GivesNewIds attempts) :
    let t := s.run attempts
    ∀ i : Fin t.profiles.length,
      (t.position? (t.profiles.get i).name = some i ↔
        ∀ j : Fin t.profiles.length, (t.profiles.get j).id = (t.profiles.get i).name → j = i) ∧
      ∀ j : Fin t.profiles.length, (t.profiles.get j).id = (t.profiles.get i).name →
        t.position? (t.profiles.get i).name = some j := by
  intro t i
  have ht : t.HasKeys := hs.run hnew
  have hid (j : Fin t.profiles.length) (hj : (t.profiles.get j).id = (t.profiles.get i).name) :
      t.position? (t.profiles.get i).name = some j := hj ▸ ht.position?_id j
  refine ⟨⟨fun hi j hj => ?_, fun hother => ?_⟩, hid⟩
  · exact Option.some.inj ((hid j hj).symm.trans hi)
  · by_cases hown : (t.profiles.get i).id = (t.profiles.get i).name
    · exact hid i hown
    · refine ht.position?_name i fun j hj => hown ?_
      rwa [hother j hj] at hj

end Store

namespace Sample

/-- A draft without content. -/
def named (id name : String) : Profile ℚ where
  id := id
  name := name
  description := ""
  status := .draft
  priority := 1
  model := .simple
  rules := .empty
  rates := []
  shared := .empty
  created := none
  modified := none

/-- Two profiles, one of which has the identifier of the other one as its name. -/
def crossed : Store ℚ := ⟨[named "A" "B", named "B" "C"]⟩

theorem hasKeys_crossed : crossed.HasKeys := ⟨by decide +kernel, by decide +kernel⟩

/-- A submission of the first profile, and the removal of the second one. -/
def settling : List (Attempt ℚ) :=
  [⟨.move "A" .inReview, "D", ⟨2024, 1, 1, 0, 0, 0, 0, by decide⟩⟩,
    ⟨.delete "B", "D", ⟨2024, 1, 2, 0, 0, 0, 0, by decide⟩⟩]

end Sample

/-- The name of the first profile addresses the second one, and a removal by that name takes the
second one out. -/
theorem Store.position?_name_crossed :
    Sample.crossed.HasKeys ∧
      (Sample.crossed.profiles.get ⟨0, by decide⟩).name = "B" ∧
      Sample.crossed.position? "B" = some ⟨1, by decide⟩ ∧
      ((Sample.crossed.delete "B").toOption.map fun r => r.1.name) = some "C" :=
  ⟨Sample.hasKeys_crossed, by decide +kernel, by decide +kernel, by decide +kernel⟩

theorem Store.position?_name_of_run_settling :
    Sample.crossed.HasKeys ∧ Sample.crossed.GivesNewIds Sample.settling ∧
      ∃ h : 0 < (Sample.crossed.run Sample.settling).profiles.length,
        (Sample.crossed.run Sample.settling).position? "B" = some ⟨0, h⟩ := by
  have hnew : Sample.crossed.GivesNewIds Sample.settling := by
    simp [Store.GivesNewIds, Sample.settling]
  have hlength : 0 < (Sample.crossed.run Sample.settling).profiles.length := by decide +kernel
  have hother : ∀ j : Fin (Sample.crossed.run Sample.settling).profiles.length,
      ((Sample.crossed.run Sample.settling).profiles.get j).id =
        ((Sample.crossed.run Sample.settling).profiles.get ⟨0, hlength⟩).name →
      j = ⟨0, hlength⟩ := by
    revert hlength
    decide +kernel
  exact ⟨Sample.hasKeys_crossed, hnew, hlength,
    (Store.position?_name_of_run Sample.hasKeys_crossed Sample.settling hnew
      ⟨0, hlength⟩).1.mpr hother⟩

/-! ## Names that are refused -/

theorem Text.trim_eq_of_sameLetters {a b : String} (h : sameLetters a b = true) (hb : trim b = b) :
    trim a = a := by
  have hfold : foldAscii a = foldAscii b := sameLetters_iff.mp h
  have htrimmed : foldAscii (trim a) = foldAscii a := by
    rw [foldAscii_trim, hfold, ← foldAscii_trim, hb]
  have hlength : (trimChars a.toList).length = a.toList.length := by
    have hmap := congrArg List.length htrimmed
    unfold foldAscii trim at hmap
    rwa [String.toList_ofList, List.length_map, List.length_map] at hmap
  have hsub : (trimChars a.toList).Sublist a.toList :=
    (List.rdropWhile_prefix isBlank (trimStart a.toList)).sublist.trans
      (List.dropWhile_suffix isBlank).sublist
  unfold trim
  rw [hsub.eq_of_length hlength, String.ofList_toList]

namespace Store

variable {α : Type} {s : Store α}

theorem exists_position_iff {key : String} :
    (∃ i, s.position key = .ok i) ↔
      ∃ p ∈ s.profiles, p.id = key ∨ Text.sameLetters p.name key = true := by
  have hsome : (∃ i, s.position key = .ok i) ↔ (s.position? key).isSome = true := by
    unfold position
    cases s.position? key with
    | none => simp
    | some i => simp
  rw [hsome, position?, Option.isSome_or, List.isSome_findFinIdx?, List.isSome_findFinIdx?]
  simp only [Bool.or_eq_true, List.any_eq_true, beq_iff_eq]
  constructor
  · rintro (⟨p, hp, hid⟩ | ⟨p, hp, hname⟩)
    · exact ⟨p, hp, Or.inl hid⟩
    · exact ⟨p, hp, Or.inr hname⟩
  · rintro ⟨p, hp, hid | hname⟩
    · exact Or.inl ⟨p, hp, hid⟩
    · exact Or.inr ⟨p, hp, hname⟩

theorem exists_sameName_of_isTaken {name : String} (h : s.isTaken name none = true) :
    ∃ p ∈ s.profiles, sameName p.name name = true := by
  by_contra hnone
  push Not at hnone
  have hfree : s.isTaken name none = false := by
    rw [isTaken_eq_false_iff]
    intro j _
    exact Bool.eq_false_iff.mpr (hnone _ (List.get_mem s.profiles j))
  rw [hfree] at h
  cases h

/-- A name without blanks around it is a key of the profiles that have it without blanks as well. -/
theorem sameLetters_iff_of_trimmed {stored name : String} (hname : Text.trim name = name) :
    Text.sameLetters stored name = true ↔
      sameName stored name = true ∧ Text.trim stored = stored := by
  constructor
  · intro h
    exact ⟨sameName_of_sameLetters h, Text.trim_eq_of_sameLetters h hname⟩
  · rintro ⟨hsame, hstored⟩
    unfold sameName at hsame
    rwa [hstored, hname] at hsame

/-- The name for which an addition is refused is the one that it brings, without blanks around it,
and some profile has it. It is a key exactly if a profile that has it is stored without blanks around
its name, or if a profile has it as its identifier. -/
theorem refused_name_is_key_iff {q : Profile α} {name : String}
    (h : s.add q = .error (.duplicateName name)) :
    name = Text.trim q.name ∧ (∃ p ∈ s.profiles, sameName p.name name = true) ∧
      ((∃ i, s.position name = .ok i) ↔
        ∃ p ∈ s.profiles, p.id = name ∨
          (sameName p.name name = true ∧ Text.trim p.name = p.name)) := by
  rw [add_eq] at h
  split at h
  · rename_i htaken
    obtain rfl : Text.trim q.name = name := StoreError.duplicateName.inj (Except.error.inj h)
    have htrimmed := Text.trim_trim q.name
    obtain ⟨p, hp, hsame⟩ := exists_sameName_of_isTaken htaken
    refine ⟨rfl, ⟨p, hp, ?_⟩, ?_⟩
    · unfold sameName at hsame ⊢
      rwa [htrimmed]
    · rw [exists_position_iff]
      simp only [sameLetters_iff_of_trimmed htrimmed]
  · cases h

end Store

namespace Sample

/-- The creation of a draft whose name has blanks around it. -/
def blankCreation : Attempt Float :=
  ⟨.create (rated "" " Power "), "1", ⟨2024, 1, 3, 0, 0, 0, 0, by decide⟩⟩

/-- Two profiles with the same name, one of them with blanks around it. -/
def twice : Store ℚ := ⟨[named "1" " Power ", named "2" "POWER"]⟩

end Sample

/-- From the empty store, one creation is enough: the name that it brings is refused from then on, and
is no key. -/
theorem Store.refused_name_is_no_key :
    let s := (⟨[]⟩ : Store Float).run [Sample.blankCreation]
    s.add (Sample.rated "2" "Power") = .error (.duplicateName "Power") ∧
      s.position "Power" = .error (.profileNotFound "Power") := by
  intro s
  have htaken : s.isTaken (Sample.rated "2" "Power").name none = true := by decide +kernel
  have hnone : s.position? "Power" = none := by decide +kernel
  constructor
  · rw [Store.add_eq, if_pos htaken]
    rfl
  · unfold Store.position
    rw [hnone]

theorem Store.refused_name_is_key_iff_twice :
    Sample.twice.add (Sample.named "3" "power") = .error (.duplicateName "power") ∧
      ∃ i, Sample.twice.position "power" = .ok i := by
  have hadd : Sample.twice.add (Sample.named "3" "power") = .error (.duplicateName "power") := rfl
  refine ⟨hadd, (Store.refused_name_is_key_iff hadd).2.2.mpr ?_⟩
  exact ⟨Sample.named "2" "POWER", by simp [Sample.twice],
    Or.inr ⟨by decide +kernel, by decide +kernel⟩⟩

end Chargeback
