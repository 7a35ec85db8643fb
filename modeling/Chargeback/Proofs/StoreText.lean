import Chargeback.Proofs.RoundTrip

/-!
# What the file of the store holds

The text of a store is read as the documents of its profiles, one behind the other, with what stands too
deep in them cut off. Only rule trees stand that deep. A profile whose rule tree is not too high is read
back as it is, and a store in which there is no other profile is read back as the same store; a single
rule tree that is too high makes the whole text unreadable.
-/

namespace Chargeback

open Json

/-! ## Rule trees -/

namespace RuleTree

/-- Nothing of the document of a tree is changed by being read, where it is not too deep. -/
theorem reread_toJson : ∀ (t : RuleTree) {limit : ℕ}, t.toJson.depth ≤ limit →
    reread limit t.toJson = t.toJson
  | ⟨connective, conditions, groups⟩, limit, h => by
    -- A group takes two levels, its own and that of the list in which its parts stand.
    have hleast := two_le_depth_toJson ⟨connective, conditions, groups⟩
    obtain ⟨n, rfl⟩ : ∃ n, limit = n + 1 + 1 := ⟨limit - 2, by omega⟩
    rw [depth_toJson_le_iff] at h
    obtain ⟨hroom, hdepth⟩ := h
    have hconditions : ∀ c ∈ conditions, reread n c.toJson = c.toJson := by
      intro c hc
      obtain ⟨m, rfl⟩ : ∃ m, n = m + 1 := ⟨n - 1, by have := hroom c hc; omega⟩
      simp [Condition.toJson, reread, rereadFields]
    have hgroups : ∀ t ∈ groups, reread n t.toJson = t.toJson :=
      fun t ht => reread_toJson t (hdepth t ht)
    rw [reread_succ_toJson, reread_ofList hconditions, reread_ofList hgroups, toJson_eq]

/-- A tree is read back as it is from a text that has room for it, and not at all from any other. -/
theorem read?_reread {t : RuleTree} (ht : RuleTree.read? t.toJson = some t) (limit : ℕ) :
    RuleTree.read? (reread limit t.toJson) = if t.toJson.depth ≤ limit then some t else none := by
  split
  · rename_i hroom
    rw [reread_toJson t hroom, ht]
  · rename_i hroom
    rw [← Option.not_isSome_iff_eq_none, isSome_read?_reread]
    exact hroom

/-- The greatest height of a rule tree that the text of a store has room for: the store and the profile
are a level each, a tree takes two levels for each node of its longest branch, and the conditions of the
last node take one more. -/
def heightLimit : Nat := (depthLimit - 3) / 2

end RuleTree

/-! ## Profiles -/

/-- A profile is read back as it is from a text that has room for its rule tree, and not at all from any
other. -/
theorem Profile.IsRecoverable.read?_reread {p : Profile Float} (hp : p.IsRecoverable) (limit : ℕ) :
    Profile.read? (reread (limit + 4) p.toJson) =
      if p.rules.toJson.depth ≤ limit + 3 then some p else none := by
  have hrates : list? Rate.read? (reread (limit + 3) (ofList Rate.toJson p.rates)) = some p.rates := by
    rw [reread_ofList fun c _ => c.reread_toJson (limit + 1)]
    exact hp.rates
  have hshared : SharedItems.read? (reread (limit + 3) p.shared.toJson) = some p.shared := by
    rw [p.shared.reread_toJson]
    exact hp.shared
  have heq := read?_seenThrough (reread_str (limit + 3)) (reread_ofNat (limit + 3)) hp.priority hrates
    hshared
  rw [toJson_eq_obj, reread_obj, heq, RuleTree.read?_reread hp.rules]
  split
  · rfl
  · rfl

/-! ## Stores -/

namespace Store

/-- What a text says about a list of profiles. -/
structure Holds (text : String) (profiles : List (Profile Float)) : Prop where
  /-- The text is an array of the documents of the profiles, in their order. What stands too deep in
  them is cut off. -/
  documents : Json.read? text = some (reread depthLimit (.arr (profiles.map Profile.toJson)))
  /-- The text is read as a store of these profiles, unless a rule tree is too high. -/
  whole : (∀ p ∈ profiles, p.rules.height ≤ RuleTree.heightLimit) →
    Store.read? text = some ⟨profiles⟩
  /-- A rule tree that is too high makes the text unreadable. -/
  cut : (∃ p ∈ profiles, RuleTree.heightLimit < p.rules.height) → Store.read? text = none

/-- What a store has been read from are documents, so its profiles are read back from their own. -/
theorem isRecoverable_of_read? {text : String} {s : Store Float} (h : Store.read? text = some s) :
    ∀ p ∈ s.profiles, p.IsRecoverable := by
  obtain ⟨profiles, hprofiles, rfl⟩ := Option.map_eq_some_iff.mp h
  obtain ⟨document, hdocument, hlist⟩ := Option.bind_eq_some_iff.mp hprofiles
  intro p hp
  obtain ⟨item, hitem, hread⟩ := exists_inRange_of_mem_list? (inRange_of_read? hdocument) hlist hp
  exact Profile.isRecoverable_of_read? hitem hread

/-- The text of a store holds its profiles. -/
theorem holds_text {s : Store Float} (hs : ∀ p ∈ s.profiles, p.IsRecoverable) :
    Holds s.text s.profiles := by
  have hprintable : Printable (ofList Profile.toJson s.profiles) :=
    printable_ofList fun p hp => Profile.printable_toJson (hs p hp).priority
  have hdocuments : Json.read? s.text =
      some (reread depthLimit (.arr (s.profiles.map Profile.toJson))) := hprintable.read?_pretty
  -- The list of the profiles takes one level of the text, and the components of a profile need four.
  have hlimit : depthLimit = 122 + 4 + 1 := rfl
  have heach : ∀ p ∈ s.profiles, Profile.read? (reread (122 + 4) p.toJson) =
      if p.rules.height ≤ RuleTree.heightLimit then some p else none := by
    intro p hp
    rw [(hs p hp).read?_reread]
    exact if_congr (p.rules.depth_toJson_le_iff_height_le 62) rfl rfl
  have hstore : Store.read? s.text = (list? Profile.read?
      (ofList (fun p => reread (122 + 4) p.toJson) s.profiles)).map Store.mk := by
    rw [Store.read?, hdocuments, Option.bind_some, hlimit, reread, if_neg (Nat.succ_ne_zero _),
      rereadItems_eq_map, List.map_map]
    rfl
  refine ⟨hdocuments, fun hlow => ?_, ?_⟩
  · rw [hstore, list?_ofList fun p hp => by rw [heach p hp, if_pos (hlow p hp)]]
    rfl
  · rintro ⟨p, hp, hhigh⟩
    have hnone : Profile.read? (reread (122 + 4) p.toJson) = none := by
      rw [heach p hp, if_neg (Nat.not_le.mpr hhigh)]
    rw [hstore, ofList, list?, Option.map_eq_none_iff, ← Option.not_isSome_iff_eq_none, isSome_mapM,
      List.all_map, List.all_eq_true]
    intro hall
    have hsome := hall p hp
    rw [Function.comp_apply, hnone] at hsome
    cases hsome

/-- A store that is saved and read again is the same store. -/
theorem eq_of_read?_text {s t : Store Float} (hs : ∀ p ∈ s.profiles, p.IsRecoverable)
    (ht : Store.read? s.text = some t) : t = s := by
  have hholds := holds_text hs
  by_cases hlow : ∀ p ∈ s.profiles, p.rules.height ≤ RuleTree.heightLimit
  · rw [hholds.whole hlow] at ht
    exact (Option.some.inj ht).symm
  · simp only [not_forall, not_le] at hlow
    obtain ⟨p, hp, hhigh⟩ := hlow
    rw [hholds.cut ⟨p, hp, hhigh⟩] at ht
    cases ht

end Store

end Chargeback
