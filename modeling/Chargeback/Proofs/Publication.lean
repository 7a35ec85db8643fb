import Mathlib.Tactic.ByContra
import Chargeback.Proofs.Batch
import Chargeback.Proofs.Matching

/-!
# One profile more

A list of profiles is compared with the list that has one profile more, at any place. The profiles
that both lists have keep their order, and so do their ranks. Therefore the winner of the longer list
is the new profile, or it is the winner of the shorter list. A breakdown is made from the winner and
the inventory alone, so the new profile prices anew what it wins, and nothing else: pools are shared
among the resources that a profile applies to, whoever prices them.
-/

namespace Chargeback

namespace Profile

variable {α : Type} (front back : List (Profile α)) (q : Profile α)

theorem length_new : (front ++ q :: back).length = (front ++ back).length + 1 := by
  rw [List.length_append, List.length_append, List.length_cons, Nat.add_assoc]

/-- The place of the new profile. -/
def newPlace : Fin (front ++ q :: back).length := ⟨front.length, by simp⟩

/-- Where a profile of the shorter list stands in the longer one. -/
def shift (j : Fin (front ++ back).length) : Fin (front ++ q :: back).length :=
  ⟨if (j : ℕ) < front.length then j else j + 1, by
    have hj := j.isLt
    have hlength := length_new front back q
    split <;> omega⟩

theorem get_newPlace : (front ++ q :: back).get (newPlace front back q) = q := by
  simp [newPlace]

theorem get_shift (j : Fin (front ++ back).length) :
    (front ++ q :: back).get (shift front back q j) = (front ++ back).get j := by
  unfold shift
  by_cases hj : (j : ℕ) < front.length
  · simp [hj]
  · have hsucc : (j : ℕ) + 1 - front.length = (j : ℕ) - front.length + 1 := by omega
    have hle : ¬ (j : ℕ) + 1 < front.length := by omega
    simp [List.getElem_append, hj, hle, hsucc]

theorem shift_lt_shift {i j : Fin (front ++ back).length} (hij : i < j) :
    shift front back q i < shift front back q j := by
  have hlt : (i : ℕ) < j := hij
  show (if (i : ℕ) < front.length then (i : ℕ) else i + 1) <
    if (j : ℕ) < front.length then (j : ℕ) else j + 1
  split <;> split <;> omega

/-- Every other place of the longer list is that of a profile of the shorter one. -/
theorem exists_shift_eq {i : Fin (front ++ q :: back).length} (hi : i ≠ newPlace front back q) :
    ∃ j, shift front back q j = i := by
  have hne : (i : ℕ) ≠ front.length := fun h => hi (Fin.ext h)
  have hi := i.isLt
  have hlength := length_new front back q
  have hfront : front.length ≤ (front ++ back).length := by simp
  rcases Nat.lt_or_gt_of_ne hne with hlt | hgt
  · have hj : (i : ℕ) < (front ++ back).length := by omega
    refine ⟨⟨i, hj⟩, Fin.ext ?_⟩
    show (if (i : ℕ) < front.length then (i : ℕ) else i + 1) = i
    exact if_pos hlt
  · have hj : (i : ℕ) - 1 < (front ++ back).length := by omega
    refine ⟨⟨i - 1, hj⟩, Fin.ext ?_⟩
    show (if (i : ℕ) - 1 < front.length then (i : ℕ) - 1 else i - 1 + 1) = i
    rw [if_neg (by omega)]
    omega

theorem rank_shift_lt {i j : Fin (front ++ back).length}
    (h : rank (front ++ back) i < rank (front ++ back) j) :
    rank (front ++ q :: back) (shift front back q i) <
      rank (front ++ q :: back) (shift front back q j) := by
  unfold rank at h ⊢
  rw [Prod.Lex.toLex_lt_toLex] at h ⊢
  rw [get_shift, get_shift]
  rcases h with hpriority | ⟨hpriority, hplace⟩
  · exact Or.inl hpriority
  · exact Or.inr ⟨hpriority, shift_lt_shift front back q hplace⟩

/-! ## The winner -/

variable [Scalar α] {front back q} {r : Resource α}

/-- Another winner than the new profile has won before. -/
theorem Wins.of_shift {j : Fin (front ++ back).length}
    (h : Wins r (front ++ q :: back) (shift front back q j)) : Wins r (front ++ back) j := by
  obtain ⟨hpublished, happlies, hleast⟩ := h
  rw [get_shift] at hpublished happlies
  refine ⟨hpublished, happlies, ?_⟩
  intro k hk hka
  by_contra hnot
  have hlt : rank (front ++ back) k < rank (front ++ back) j := lt_of_not_ge hnot
  have hle := hleast (shift front back q k) (by rwa [get_shift]) (by rwa [get_shift])
  exact absurd (rank_shift_lt front back q hlt) hle.not_gt

/-- The new profile is the match, or the match is the one that there was. -/
theorem match?_new (front back : List (Profile α)) (q : Profile α) (r : Resource α) :
    match? r (front ++ q :: back) =
      if Wins r (front ++ q :: back) (newPlace front back q) then some q
      else match? r (front ++ back) := by
  rcases forall_or_exists_wins r (front ++ q :: back) with hnone | ⟨i, hi⟩
  · have hlost : ¬ Wins r (front ++ q :: back) (newPlace front back q) := by
      intro h
      have hrejected := hnone _ (mem_places.mpr h.published)
      rw [h.applies] at hrejected
      cases hrejected
    have hafter : match? r (front ++ q :: back) = none := match?_eq_none hnone
    have hbefore : match? r (front ++ back) = none := by
      rw [match?_eq_none_iff] at hafter ⊢
      intro p hp
      refine hafter p ?_
      rcases List.mem_append.mp hp with hp | hp
      · exact List.mem_append_left _ hp
      · exact List.mem_append_right _ (List.mem_cons_of_mem q hp)
    rw [if_neg hlost, hafter, hbefore]
  · by_cases hnew : i = newPlace front back q
    · rw [← hnew, if_pos hi, hi.match?_eq, hnew, get_newPlace]
    · have hlost : ¬ Wins r (front ++ q :: back) (newPlace front back q) :=
        fun h => hnew (hi.unique h)
      obtain ⟨j, rfl⟩ := exists_shift_eq front back q hnew
      rw [if_neg hlost, hi.match?_eq, hi.of_shift.match?_eq, get_shift]

/-- A resource that had a match has one. -/
theorem match?_new_ne_none (q : Profile α) (h : match? r (front ++ back) ≠ none) :
    match? r (front ++ q :: back) ≠ none := by
  rw [match?_new]
  split
  · exact Option.some_ne_none q
  · exact h

end Profile

namespace EngineOptions

variable {α : Type} [Scalar α] (o : EngineOptions α)

theorem price_new (front back : List (Profile α)) (q : Profile α) (inventory : List (Resource α))
    (r : Resource α) :
    o.price (front ++ q :: back) inventory r =
      if Profile.Wins r (front ++ q :: back) (Profile.newPlace front back q) then
        o.allocation.breakdown q inventory r
      else o.price (front ++ back) inventory r := by
  unfold price
  rw [Profile.match?_new]
  by_cases hwins : Profile.Wins r (front ++ q :: back) (Profile.newPlace front back q)
  · rw [if_pos hwins, if_pos hwins]
  · rw [if_neg hwins, if_neg hwins]

/-- With one profile more, wherever it stands, a resource that the new profile wins gets the breakdown
under this profile, and every other one keeps its match and its breakdown. No resource loses its
match. Read from right to left, this says what the removal of a profile changes. -/
theorem priceAll_new (front back : List (Profile α)) (q : Profile α)
    (inventory : List (Resource α)) :
    let before := o.priceAll (front ++ back) inventory
    let after := o.priceAll (front ++ q :: back) inventory
    before.length = inventory.length ∧ after.length = inventory.length ∧
      ∀ i : Fin inventory.length,
        let r := inventory.get i
        let captured := Profile.Wins r (front ++ q :: back) (Profile.newPlace front back q)
        (captured → Profile.match? r (front ++ q :: back) = some q ∧
          after[(i : ℕ)]? = some (o.allocation.breakdown q inventory r)) ∧
        (¬ captured →
          Profile.match? r (front ++ q :: back) = Profile.match? r (front ++ back) ∧
            after[(i : ℕ)]? = before[(i : ℕ)]?) ∧
        (Profile.match? r (front ++ back) ≠ none →
          Profile.match? r (front ++ q :: back) ≠ none) := by
  intro before after
  have hbefore : before = inventory.map (o.price (front ++ back) inventory) :=
    o.priceAll_eq_map (front ++ back) inventory
  have hafter : after = inventory.map (o.price (front ++ q :: back) inventory) :=
    o.priceAll_eq_map (front ++ q :: back) inventory
  refine ⟨by rw [hbefore, List.length_map], by rw [hafter, List.length_map], ?_⟩
  intro i r captured
  have hat (f : Resource α → Breakdown α) : (inventory.map f)[(i : ℕ)]? = some (f r) := by
    rw [List.getElem?_map, List.getElem?_eq_getElem i.isLt]
    rfl
  refine ⟨?_, ?_, Profile.match?_new_ne_none q⟩
  · intro hwins
    refine ⟨?_, ?_⟩
    · rw [Profile.match?_new, if_pos hwins]
    · rw [hafter, hat, price_new, if_pos hwins]
  · intro hlost
    refine ⟨?_, ?_⟩
    · rw [Profile.match?_new, if_neg hlost]
    · rw [hafter, hbefore, hat, hat, price_new, if_neg hlost]

end EngineOptions

end Chargeback
