import Mathlib.Data.Nat.Notation
import Mathlib.Tactic.ByContra
import Chargeback.Proofs.Saving

/-!
# Names stay unique

Two names count as the same if they differ in blanks around them and in the case of ASCII letters
only. If the names of a store are pairwise different in this sense, they stay so along every sequence
of changes: a creation is checked against all names and an update against all names but that of the
addressed profile, which is the one that is replaced, and no other change touches a name. The check
refuses nothing else: what a change asks for, names aside (`Store.intended?`), comes about exactly if
its names are pairwise different.
-/

namespace Chargeback

/-! ## Names that count as the same -/

namespace Text

theorem isBlank_eq_false {c : Char} (hlow : 0x20 < c.toNat) (hhigh : c.toNat < 0x85) :
    isBlank c = false := by
  rw [Bool.eq_false_iff]
  intro h
  simp only [isBlank, Bool.or_eq_true, Bool.and_eq_true, decide_eq_true_eq, beq_iff_eq] at h
  omega

/-- Letters are no blanks in either case. -/
theorem isBlank_toLower (c : Char) : isBlank c.toLower = isBlank c := by
  delta Char.toLower
  split
  · rename_i hrange
    have hlow : 65 ≤ c.toNat := hrange.1
    have hhigh : c.toNat ≤ 90 := hrange.2
    have hlower : (c.val + ('a'.val - 'A'.val)).toNat = c.toNat + 32 := by
      show (c.toNat + 32) % 2 ^ 32 = c.toNat + 32
      omega
    rw [isBlank_eq_false (c := c) (by omega) (by omega), isBlank_eq_false]
    · show 0x20 < (c.val + ('a'.val - 'A'.val)).toNat
      omega
    · show (c.val + ('a'.val - 'A'.val)).toNat < 0x85
      omega
  · rfl

theorem trimStart_map_toLower (s : List Char) :
    trimStart (s.map Char.toLower) = (trimStart s).map Char.toLower := by
  rw [trimStart, trimStart, List.dropWhile_map]
  exact congrArg (fun p => (s.dropWhile p).map Char.toLower) (funext isBlank_toLower)

/-- Blanks are removed alike from texts that differ in the case of letters. -/
theorem trimChars_map_toLower (s : List Char) :
    trimChars (s.map Char.toLower) = (trimChars s).map Char.toLower := by
  have hend (s : List Char) : trimEnd s = (trimStart s.reverse).reverse := rfl
  rw [trimChars, trimChars, hend, hend, trimStart_map_toLower, ← List.map_reverse,
    trimStart_map_toLower, List.map_reverse]

theorem foldAscii_trim (s : String) : foldAscii (trim s) = trimChars (foldAscii s) := by
  rw [foldAscii, foldAscii, trim, String.toList_ofList, trimChars_map_toLower]

theorem sameLetters_iff {a b : String} : sameLetters a b = true ↔ foldAscii a = foldAscii b :=
  beq_iff_eq

end Text

namespace Store

variable {α : Type}

theorem sameName_iff {a b : String} :
    sameName a b = true ↔ Text.trimChars (Text.foldAscii a) = Text.trimChars (Text.foldAscii b) := by
  rw [sameName, Text.sameLetters_iff, Text.foldAscii_trim, Text.foldAscii_trim]

theorem sameName_comm (a b : String) : sameName a b = sameName b a := by
  rw [Bool.eq_iff_iff, sameName_iff, sameName_iff]
  exact eq_comm

/-- Texts that differ in the case of letters only are the same name. -/
theorem sameName_of_sameLetters {a b : String} (h : Text.sameLetters a b = true) :
    sameName a b = true :=
  sameName_iff.mpr (congrArg Text.trimChars (Text.sameLetters_iff.mp h))

theorem isTaken_eq_false_iff {s : Store α} {name : String} {excepted : Option ℕ} :
    s.isTaken name excepted = false ↔
      ∀ j : Fin s.profiles.length, some (j : ℕ) ≠ excepted →
        sameName (s.profiles.get j).name name = false := by
  rw [isTaken, List.any_eq_false]
  constructor
  · intro h j hj
    have hmem : (s.profiles.get j, (j : ℕ)) ∈ s.profiles.zipIdx :=
      List.mem_zipIdx_iff_getElem?.mpr (List.getElem?_eq_getElem j.isLt)
    simpa [hj] using h _ hmem
  · rintro h ⟨p, j⟩ hmem
    obtain ⟨hj, rfl⟩ : ∃ hj : j < s.profiles.length, s.profiles[j] = p :=
      List.getElem?_eq_some_iff.mp (List.mem_zipIdx_iff_getElem?.mp hmem)
    by_cases hexcepted : some j = excepted
    · simp [hexcepted]
    · simpa [hexcepted] using h ⟨j, hj⟩ hexcepted

/-! ## Pairwise relations -/

theorem pairwise_get_of_ne {R : Profile α → Profile α → Prop} (hR : ∀ {p q}, R p q → R q p)
    {l : List (Profile α)} (hl : l.Pairwise R) {i j : Fin l.length} (hij : i ≠ j) :
    R (l.get i) (l.get j) := by
  rcases Nat.lt_or_gt_of_ne (fun h => hij (Fin.ext h)) with hlt | hlt
  · exact List.pairwise_iff_getElem.mp hl i j i.isLt j.isLt hlt
  · exact hR (List.pairwise_iff_getElem.mp hl j i j.isLt i.isLt hlt)

theorem pairwise_append_singleton {R : Profile α → Profile α → Prop} {l : List (Profile α)}
    {q : Profile α} (hl : l.Pairwise R) (hq : ∀ p ∈ l, R p q) : (l ++ [q]).Pairwise R := by
  refine List.pairwise_append.mpr ⟨hl, List.pairwise_singleton R q, fun p hp x hx => ?_⟩
  rw [List.mem_singleton.mp hx]
  exact hq p hp

/-- An item in the place of another one must fit all others. -/
theorem pairwise_set {R : Profile α → Profile α → Prop} (hR : ∀ {p q}, R p q → R q p)
    {l : List (Profile α)} (hl : l.Pairwise R) {q : Profile α} (i : Fin l.length)
    (hq : ∀ j : Fin l.length, j ≠ i → R (l.get j) q) : (l.set i q).Pairwise R := by
  rw [List.pairwise_iff_getElem] at hl ⊢
  intro a b ha hb hab
  rw [List.length_set] at ha hb
  rw [List.getElem_set, List.getElem_set]
  split
  · rename_i hai
    have hbi : ¬ (i : ℕ) = b := by omega
    rw [if_neg hbi]
    exact hR (hq ⟨b, hb⟩ fun h => hbi (congrArg Fin.val h).symm)
  · rename_i hai
    split
    · exact hq ⟨a, ha⟩ fun h => hai (congrArg Fin.val h).symm
    · exact hl a b ha hb hab

/-! ## Distinct names -/

/-- No two profiles have the same name. -/
def DistinctNames (s : Store α) : Prop :=
  s.profiles.Pairwise fun p q => sameName p.name q.name = false

instance (s : Store α) : Decidable s.DistinctNames :=
  List.instDecidablePairwise s.profiles

variable {s : Store α}

theorem DistinctNames.get_of_ne (h : s.DistinctNames) {i j : Fin s.profiles.length} (hij : i ≠ j) :
    sameName (s.profiles.get i).name (s.profiles.get j).name = false :=
  pairwise_get_of_ne (fun hpq => (sameName_comm _ _).trans hpq) h hij

/-- A new profile keeps the names distinct exactly if its name is free. -/
theorem DistinctNames.append_iff (h : s.DistinctNames) (q : Profile α) :
    DistinctNames ⟨s.profiles ++ [q]⟩ ↔ s.isTaken q.name none = false := by
  rw [isTaken_eq_false_iff]
  constructor
  · intro hall j _
    have hcross := (List.pairwise_append.mp hall).2.2
    exact hcross _ (List.get_mem s.profiles j) q (List.mem_singleton_self q)
  · intro hfree
    refine pairwise_append_singleton h ?_
    intro p hp
    obtain ⟨j, hj, rfl⟩ := List.mem_iff_getElem.mp hp
    exact hfree ⟨j, hj⟩ (Option.some_ne_none j)

/-- A profile in the place of another one keeps the names distinct exactly if its name is free, the
name of the other one aside. -/
theorem DistinctNames.replace_iff (h : s.DistinctNames) (i : Fin s.profiles.length)
    (q : Profile α) :
    (s.replace i q).DistinctNames ↔ s.isTaken q.name (some i) = false := by
  rw [isTaken_eq_false_iff]
  constructor
  · intro hall j hj
    have hij : (i : ℕ) ≠ j := fun heq => hj (congrArg some heq.symm)
    have hlength : (s.profiles.set i q).length = s.profiles.length := List.length_set
    have hpair := DistinctNames.get_of_ne hall
      (show Fin.cast hlength.symm j ≠ Fin.cast hlength.symm i from fun heq =>
        hij (congrArg Fin.val heq).symm)
    simpa [replace, List.getElem_set, hij] using hpair
  · intro hfree
    refine pairwise_set (fun hpq => (sameName_comm _ _).trans hpq) h i ?_
    intro j hj
    exact hfree j fun heq => hj (Fin.ext (Option.some.inj heq))

/-- A profile that keeps its name keeps the names distinct. -/
theorem DistinctNames.replace (h : s.DistinctNames) (i : Fin s.profiles.length) {q : Profile α}
    (hq : q.name = (s.profiles.get i).name) : (s.replace i q).DistinctNames := by
  refine pairwise_set (fun hpq => (sameName_comm _ _).trans hpq) h i ?_
  intro j hj
  rw [hq]
  exact h.get_of_ne hj

theorem DistinctNames.eraseIdx (h : s.DistinctNames) (i : Fin s.profiles.length) :
    DistinctNames ⟨s.profiles.eraseIdx i⟩ := h.sublist (List.eraseIdx_sublist _ _)

/-- The check of a name that is free exactly if the names are distinct afterwards. -/
theorem checked_eq_of_iff {t : Store α} {p : Profile α} {taken : Bool} {cause : ChangeError}
    (h : t.DistinctNames ↔ taken = false) :
    Except.map Prod.snd (if taken = true then .error cause else .ok (p, t)) =
      if t.DistinctNames then .ok t else .error cause := by
  by_cases ht : t.DistinctNames
  · rw [if_pos ht, h.mp ht, if_neg Bool.false_ne_true]
    rfl
  · have htaken : taken = true := (Bool.not_eq_false taken).mp fun hfree => ht (h.mpr hfree)
    rw [if_neg ht, if_pos htaken]
    rfl

variable [Scalar α] {id : String} {now : Instant} {c : Change α} {t : Store α}

/-- A change that succeeds keeps the names distinct. -/
theorem DistinctNames.of_becomes (h : s.DistinctNames) (ht : s.Becomes id now c t) :
    t.DistinctNames := by
  cases ht with
  | create valid free => exact (h.append_iff _).mpr free
  | update found valid free => exact (h.replace_iff _ _).mpr free
  | move found step valid => exact h.replace _ rfl
  | delete found => exact h.eraseIdx _

theorem DistinctNames.after (h : s.DistinctNames) (a : Attempt α) : (a.after s).DistinctNames := by
  unfold Attempt.after
  cases ht : a.result? s with
  | none => exact h
  | some t => exact h.of_becomes (Attempt.becomes_of_result? ht)

theorem DistinctNames.run (h : s.DistinctNames) (attempts : List (Attempt α)) :
    (s.run attempts).DistinctNames := by
  unfold Store.run
  induction attempts generalizing s with
  | nil => exact h
  | cons a rest ih => exact ih (h.after a)

/-! ## What a change asks for -/

/-- What a change makes of a store if nobody looks at the names. There is no result if no profile is
addressed, or if the life of the profile does not allow the change. -/
def intended? (s : Store α) (id : String) (now : Instant) : Change α → Option (Store α)
  | .create edited => (edited.create id now).toOption.map fun p => ⟨s.profiles ++ [p]⟩
  | .update key edited =>
    (s.position? key).bind fun i =>
      ((s.profiles.get i).update edited now).toOption.map fun p => s.replace i p
  | .move key target =>
    (s.position? key).bind fun i =>
      ((s.profiles.get i).moveTo target now).toOption.map fun p => s.replace i p
  | .delete key =>
    (s.position? key).map fun i : Fin s.profiles.length => ⟨s.profiles.eraseIdx i⟩

theorem intended?_of_becomes (ht : s.Becomes id now c t) : s.intended? id now c = some t := by
  cases ht with
  | @create edited valid free =>
    rw [intended?, Profile.create_eq, if_pos valid]
    rfl
  | @update key edited i found valid free =>
    rw [intended?, found, Option.bind_some, Profile.update_eq, if_pos valid]
    rfl
  | @move key target i found step valid =>
    have hvalid : ¬(target = .published ∧ (s.profiles.get i).problems ≠ []) :=
      fun h => h.2 (valid h.1)
    rw [intended?, found, Option.bind_some, Profile.moveTo_eq, if_pos step, if_neg hvalid]
    rfl
  | @delete key i found =>
    rw [intended?, found]
    rfl

end Store

/-- The content that a change gives to a profile. -/
def Change.edited? {α : Type} : Change α → Option (Profile α)
  | create edited => some edited
  | update _ edited => some edited
  | move _ _ => none
  | delete _ => none

namespace Store

variable {α : Type} [Scalar α] {s t : Store α} {id : String} {now : Instant} {c : Change α}

/-- A creation that leaves the names distinct succeeds, and another one is refused for its name. -/
theorem apply_create_of_intended? (hs : s.DistinctNames) {edited : Profile α}
    (ht : s.intended? id now (.create edited) = some t) :
    s.apply id now (.create edited) =
      if t.DistinctNames then .ok t
      else .error (.store (.duplicateName (Text.trim edited.name))) := by
  rw [intended?, Profile.create_eq] at ht
  rw [apply, create_eq]
  by_cases hvalid : edited.problems = []
  · rw [if_pos hvalid] at ht
    obtain rfl := Option.some.inj ht
    have hfree := hs.append_iff (edited.drafted id now)
    rw [Profile.name_drafted] at hfree
    rw [if_pos hvalid]
    exact checked_eq_of_iff hfree
  · rw [if_neg hvalid] at ht
    cases ht

/-- An update that leaves the names distinct succeeds, and another one is refused for its name. -/
theorem apply_update_of_intended? (hs : s.DistinctNames) {key : String} {edited : Profile α}
    (ht : s.intended? id now (.update key edited) = some t) :
    s.apply id now (.update key edited) =
      if t.DistinctNames then .ok t
      else .error (.store (.duplicateName (Text.trim edited.name))) := by
  rw [intended?] at ht
  obtain ⟨i, hi, ht⟩ := Option.bind_eq_some_iff.mp ht
  rw [Profile.update_eq] at ht
  rw [apply, update_of_position hi, updateAt_eq]
  by_cases hvalid : edited.problems = []
  · rw [if_pos hvalid] at ht
    obtain rfl := Option.some.inj ht
    have hfree := hs.replace_iff i ((s.profiles.get i).rewritten edited now)
    rw [Profile.name_rewritten] at hfree
    rw [if_pos hvalid]
    exact checked_eq_of_iff hfree
  · rw [if_neg hvalid] at ht
    cases ht

theorem apply_move_of_intended? {key : String} {target : Status}
    (ht : s.intended? id now (.move key target) = some t) :
    s.apply id now (.move key target) = .ok t := by
  rw [intended?] at ht
  obtain ⟨i, hi, ht⟩ := Option.bind_eq_some_iff.mp ht
  rw [apply, move_of_position hi]
  cases hmoved : (s.profiles.get i).moveTo target now with
  | error e =>
    rw [hmoved] at ht
    cases ht
  | ok moved =>
    rw [hmoved] at ht
    obtain rfl := Option.some.inj ht
    rfl

theorem apply_delete_of_intended? {key : String}
    (ht : s.intended? id now (.delete key) = some t) : s.apply id now (.delete key) = .ok t := by
  rw [intended?] at ht
  obtain ⟨i, hi, rfl⟩ := Option.map_eq_some_iff.mp ht
  rw [apply, delete_of_position hi]
  rfl

/-- A change of a store with distinct names does what it asks for, unless two profiles would have the
same name then. -/
theorem apply_of_intended? (hs : s.DistinctNames) (ht : s.intended? id now c = some t) :
    (t.DistinctNames → s.apply id now c = .ok t) ∧
      (¬ t.DistinctNames → ∃ edited, c.edited? = some edited ∧
        s.apply id now c = .error (.store (.duplicateName (Text.trim edited.name)))) := by
  cases c with
  | create edited =>
    rw [apply_create_of_intended? hs ht]
    exact ⟨fun h => if_pos h, fun h => ⟨edited, rfl, if_neg h⟩⟩
  | update key edited =>
    rw [apply_update_of_intended? hs ht]
    exact ⟨fun h => if_pos h, fun h => ⟨edited, rfl, if_neg h⟩⟩
  | move key target =>
    have happly := apply_move_of_intended? ht
    exact ⟨fun _ => happly, fun h => absurd (hs.of_becomes (becomes_of_apply happly)) h⟩
  | delete key =>
    have happly := apply_delete_of_intended? ht
    exact ⟨fun _ => happly, fun h => absurd (hs.of_becomes (becomes_of_apply happly)) h⟩

end Store

namespace Attempt

variable {α : Type} [Scalar α] {a : Attempt α} {s t : Store α}

/-- What an attempt makes of a store if nobody looks at the names. -/
def intended? (a : Attempt α) (s : Store α) : Option (Store α) :=
  s.intended? a.freshId a.now a.change

theorem result?_of_ok (h : s.apply a.freshId a.now a.change = .ok t) : a.result? s = some t := by
  rw [result?, h]
  rfl

theorem after_of_error {e : ChangeError} (h : s.apply a.freshId a.now a.change = .error e) :
    a.after s = s := by
  rw [after, result?, h]
  rfl

/-- An attempt succeeds exactly if it leaves the names distinct. -/
theorem result?_eq_some_iff (hs : s.DistinctNames) :
    a.result? s = some t ↔ a.intended? s = some t ∧ t.DistinctNames := by
  constructor
  · intro h
    have hbecomes := becomes_of_result? h
    exact ⟨Store.intended?_of_becomes hbecomes, hs.of_becomes hbecomes⟩
  · rintro ⟨hintended, ht⟩
    exact result?_of_ok ((Store.apply_of_intended? hs hintended).1 ht)

end Attempt

theorem Workspace.change?_of_attempt? {w : Workspace} {c : StoreCommand} {a : Attempt Float}
    (h : w.attempt? c = some a) :
    w.change? c = some a.change ∧ w.surroundings.freshId = a.freshId ∧ w.surroundings.now = a.now := by
  rw [attempt?] at h
  split at h
  · obtain ⟨change, hchange, rfl⟩ := Option.map_eq_some_iff.mp h
    exact ⟨hchange, rfl, rfl⟩
  · cases h

namespace Store

/-- Whatever is attempted from a store with distinct names, the names stay distinct. An attempt
succeeds exactly if what it asks for keeps them so. Else it is refused for the name that it brings,
blanks around it aside, and nothing changes; a command that makes this attempt fails for the same
reason, and writes nothing. -/
theorem names_stay_distinct {s : Store Float} (hs : s.DistinctNames)
    (attempts : List (Attempt Float)) :
    let t := s.run attempts
    t.DistinctNames ∧
      ∀ (a : Attempt Float) (u : Store Float),
        (a.result? t = some u ↔ a.intended? t = some u ∧ u.DistinctNames) ∧
        (a.intended? t = some u → ¬ u.DistinctNames →
          ∃ edited, a.change.edited? = some edited ∧
            let refusal := StoreError.duplicateName (Text.trim edited.name)
            t.apply a.freshId a.now a.change = .error (.store refusal) ∧ a.after t = t ∧
            ∀ (w : Workspace) (c : StoreCommand), w.readStore = .ok t → w.attempt? c = some a →
              (w.runStoreCommand c).failure = some (.change (.store refusal)) ∧
                (w.runStoreCommand c).writes = []) := by
  intro t
  have ht : t.DistinctNames := hs.run attempts
  refine ⟨ht, fun a u => ⟨Attempt.result?_eq_some_iff ht, ?_⟩⟩
  intro hintended hclash
  obtain ⟨edited, hedited, hrefused⟩ := (apply_of_intended? ht hintended).2 hclash
  refine ⟨edited, hedited, hrefused, Attempt.after_of_error hrefused, ?_⟩
  intro w c hstore hattempt
  obtain ⟨hchange, hid, hnow⟩ := Workspace.change?_of_attempt? hattempt
  rw [← hid, ← hnow] at hrefused
  exact ⟨Workspace.failure_of_error hstore hchange hrefused,
    Workspace.writes_of_error hstore hchange hrefused⟩

end Store

namespace Sample

/-- A valid draft. -/
def rated (id name : String) : Profile Float where
  id := id
  name := name
  description := "Charged by the processor"
  status := .draft
  priority := 1
  model := .simple
  rules := ⟨.and, [⟨.ofAttribute .kind, .equals, "vm"⟩], []⟩
  rates := [⟨"Power", .perCpu, 10.0, "monthly", ""⟩]
  shared := .empty
  created := none
  modified := none

/-- Two drafts. -/
def twoDrafts : Store Float := ⟨[rated "1" "Power", rated "2" "Heat"]⟩

/-- The submission of one of them. -/
def submission : Attempt Float :=
  ⟨.move "POWER" .inReview, "3", ⟨2024, 2, 1, 0, 0, 0, 0, by decide⟩⟩

/-- An update that gives the other one the name of the first, in other letters and with blanks. -/
def clash : Attempt Float :=
  ⟨.update "heat" (rated "" " POWER "), "3", ⟨2024, 2, 2, 0, 0, 0, 0, by decide⟩⟩

end Sample

theorem Store.names_stay_distinct_clash :
    let t := Sample.twoDrafts.run [Sample.submission]
    Sample.twoDrafts.DistinctNames ∧ t.DistinctNames ∧
      ∃ u, Sample.clash.intended? t = some u ∧ ¬ u.DistinctNames ∧
        t.apply Sample.clash.freshId Sample.clash.now Sample.clash.change =
          .error (.store (.duplicateName "POWER")) ∧
        Sample.clash.after t = t := by
  intro t
  have hstart : Sample.twoDrafts.DistinctNames := by decide +kernel
  have hclash : ((Sample.clash.intended? t).map fun u => decide u.DistinctNames) =
      some false := by
    decide +kernel
  obtain ⟨u, hu, hnot⟩ := Option.map_eq_some_iff.mp hclash
  obtain ⟨ht, hall⟩ := Store.names_stay_distinct hstart [Sample.submission]
  obtain ⟨edited, hedited, hrefused, hafter, -⟩ :=
    (hall Sample.clash u).2 hu (of_decide_eq_false hnot)
  obtain rfl := Option.some.inj hedited
  exact ⟨hstart, ht, u, hu, of_decide_eq_false hnot, hrefused, hafter⟩

end Chargeback
