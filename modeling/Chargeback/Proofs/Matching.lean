import Mathlib.Data.List.FinRange
import Mathlib.Data.Prod.Lex
import Chargeback.Matching
import Chargeback.Proofs.Sorting

/-!
# The first match wins

The search for a profile is described without sorting and without searching. Published profiles rank
by their priority and, where that is equal, by their position in the store. The profile that prices
a resource is the one of least rank among those that are published and apply, and the search looks
at exactly the published profiles up to it.

The order of the candidates is followed on positions (`places`), not on profiles: two positions of a
store may hold equal profiles.
-/

namespace Chargeback

/-! ## Searching a list -/

namespace Search

variable {ι κ : Type} {test : ι → Bool}

/-- A list holds no item that a test accepts, or it falls apart at the first one. -/
theorem forall_or_split (test : ι → Bool) (l : List ι) :
    (∀ x ∈ l, test x = false) ∨
      ∃ front x back, l = front ++ x :: back ∧ (∀ y ∈ front, test y = false) ∧ test x = true := by
  cases h : l.find? test with
  | none => exact Or.inl fun x hx => by simpa using List.find?_eq_none.mp h x hx
  | some x =>
    obtain ⟨hx, front, back, hl, hfront⟩ := List.find?_eq_some_iff_append.mp h
    exact Or.inr ⟨front, x, back, hl, fun y hy => by simpa using hfront y hy, hx⟩

theorem first_of_forall {l : List ι} (h : ∀ x ∈ l, test x = false) :
    first test l = ⟨none, l⟩ := by
  induction l with
  | nil => rfl
  | cons x rest ih =>
    rw [first, h x (.head rest), ih fun y hy => h y (.tail x hy)]
    rfl

theorem first_append_cons {front back : List ι} {x : ι} (hfront : ∀ y ∈ front, test y = false)
    (hx : test x = true) :
    first test (front ++ x :: back) = ⟨some front.length, front ++ [x]⟩ := by
  induction front with
  | nil => rw [List.nil_append, first, if_pos hx]; rfl
  | cons y rest ih =>
    rw [List.cons_append, first, hfront y (.head rest), ih fun z hz => hfront z (.tail y hz)]
    rfl

/-- Searching what the items of a list stand for is searching the list. -/
theorem first_map (f : κ → ι) (l : List κ) :
    first test (l.map f) =
      ⟨(first (test ∘ f) l).position, (first (test ∘ f) l).tried.map f⟩ := by
  induction l with
  | nil => rfl
  | cons x rest ih =>
    rw [List.map_cons, first, first, Function.comp_apply]
    split
    · rfl
    · rw [ih]; rfl

end Search

/-! ## A store with ties -/

namespace Sample

/-- A tree that applies to every resource: none has an attribute without a name. -/
def everything : RuleTree := ⟨.and, [⟨.unknown "", .notEquals, ""⟩], []⟩

/-- A resource. -/
def machine : Resource Rat := ⟨"1", "web", none, "", "", 8, 32, 500, ∅⟩

/-- A profile that charges nothing. -/
def profile (status : Status) (priority : Nat) (rules : RuleTree) : Profile Rat where
  id := ""
  name := ""
  description := ""
  status := status
  priority := priority
  model := .simple
  rules := rules
  rates := []
  shared := .empty
  created := none
  modified := none

/-- A draft that would be tried first, and three published profiles: the first one that is tried does
not apply, and the other two have the same priority. -/
def tied : List (Profile Rat) :=
  [profile .draft 0 everything, profile .published 2 everything, profile .published 1 .empty,
    profile .published 2 everything]

end Sample

namespace Profile

variable {α : Type}

/-! ## The order of the candidates -/

/-- What decides the order in which the profiles of a list are tried: the priority first, and the
position second. -/
def rank (profiles : List (Profile α)) (i : Fin profiles.length) : ℕ ×ₗ ℕ :=
  toLex ((profiles.get i).priority, (i : ℕ))

theorem rank_injective (profiles : List (Profile α)) : Function.Injective (rank profiles) := by
  intro i j h
  exact Fin.ext (congrArg Prod.snd (toLex.injective h))

/-- The positions of the published profiles in the order in which the profiles are tried. -/
def places (profiles : List (Profile α)) : List (Fin profiles.length) :=
  Sorting.stableSort (fun i j => decide ((profiles.get i).priority < (profiles.get j).priority))
    ((List.finRange profiles.length).filter fun i => (profiles.get i).isPublished)

theorem places_perm (profiles : List (Profile α)) :
    (places profiles).Perm
      ((List.finRange profiles.length).filter fun i => (profiles.get i).isPublished) :=
  Sorting.stableSort_perm _ _

theorem mem_places {profiles : List (Profile α)} {i : Fin profiles.length} :
    i ∈ places profiles ↔ (profiles.get i).isPublished = true := by
  rw [(places_perm profiles).mem_iff, List.mem_filter]
  simp [List.mem_finRange]

theorem candidates_eq_map (profiles : List (Profile α)) :
    candidates profiles = (places profiles).map fun i => profiles.get i := by
  have h : profiles.filter isPublished =
      ((List.finRange profiles.length).filter fun i => (profiles.get i).isPublished).map
        fun i => profiles.get i := by
    conv_lhs => rw [← List.map_getElem_finRange profiles]
    rw [List.filter_map]
    rfl
  rw [candidates, h, Sorting.stableSort_map]
  rfl

/-- The ranks of the candidates increase. -/
theorem pairwise_places (profiles : List (Profile α)) :
    (places profiles).Pairwise fun i j => rank profiles i < rank profiles j := by
  have hkey := Sorting.IsWeakOrder.of_key fun i : Fin profiles.length => (profiles.get i).priority
  have hlt : ((List.finRange profiles.length).filter fun i => (profiles.get i).isPublished).Pairwise
      (· < ·) := (List.pairwise_lt_finRange _).filter _
  refine (Sorting.pairwise_stableSort hkey hlt).imp fun {i j} hij => ?_
  rw [rank, rank, Prod.Lex.toLex_lt_toLex]
  rcases hij with hij | ⟨hji, hij⟩
  · exact Or.inl (of_decide_eq_true hij)
  · have hle : (profiles.get i).priority ≤ (profiles.get j).priority := by simpa using hji
    rcases hle.lt_or_eq with hlt | heq
    · exact Or.inl hlt
    · exact Or.inr ⟨heq, hij⟩

/-- The candidates in front of one are those of lower rank. -/
theorem length_front {profiles : List (Profile α)} {i : Fin profiles.length}
    {front back : List (Fin profiles.length)} (heq : places profiles = front ++ i :: back) :
    front.length = (List.finRange profiles.length).countP fun j =>
      (profiles.get j).isPublished && decide (rank profiles j < rank profiles i) := by
  have hpw := pairwise_places profiles
  rw [heq, List.pairwise_append, List.pairwise_cons] at hpw
  obtain ⟨-, ⟨hback, -⟩, hfront⟩ := hpw
  have hall : front.countP (fun j => decide (rank profiles j < rank profiles i)) = front.length :=
    List.countP_eq_length.mpr fun j hj => decide_eq_true (hfront j hj i (.head back))
  have hnone : (i :: back).countP (fun j => decide (rank profiles j < rank profiles i)) = 0 := by
    refine List.countP_eq_zero.mpr fun j hj => ?_
    rcases List.mem_cons.mp hj with rfl | hj
    · simp
    · simpa using (hback j hj).le
  calc front.length
      = (places profiles).countP fun j => decide (rank profiles j < rank profiles i) := by
        rw [heq, List.countP_append, hall, hnone, Nat.add_zero]
    _ = _ := by
        rw [(places_perm profiles).countP_eq, List.countP_filter]
        simp only [Bool.and_comm]

/-! ## The winner -/

variable [Scalar α] {r : Resource α} {profiles : List (Profile α)} {i j : Fin profiles.length}

/-- The profile at a position prices a resource: it is published and applies, and no such profile has
a lower rank. -/
structure Wins (r : Resource α) (profiles : List (Profile α)) (i : Fin profiles.length) : Prop where
  published : (profiles.get i).isPublished = true
  applies : (profiles.get i).applies r = true
  least : ∀ j : Fin profiles.length, (profiles.get j).isPublished = true →
    (profiles.get j).applies r = true → rank profiles i ≤ rank profiles j

instance : Decidable (Wins r profiles i) :=
  decidable_of_iff
    ((profiles.get i).isPublished = true ∧ (profiles.get i).applies r = true ∧
      ∀ j : Fin profiles.length, (profiles.get j).isPublished = true →
        (profiles.get j).applies r = true → rank profiles i ≤ rank profiles j)
    ⟨fun ⟨hp, ha, hl⟩ => ⟨hp, ha, hl⟩, fun ⟨hp, ha, hl⟩ => ⟨hp, ha, hl⟩⟩

theorem Wins.unique (hi : Wins r profiles i) (hj : Wins r profiles j) : i = j :=
  rank_injective profiles
    (le_antisymm (hi.least j hj.published hj.applies) (hj.least i hi.published hi.applies))

theorem search_candidates (r : Resource α) (profiles : List (Profile α)) :
    search r (candidates profiles) =
      ⟨(Search.first (fun i => (profiles.get i).applies r) (places profiles)).position,
        (Search.first (fun i => (profiles.get i).applies r) (places profiles)).tried.map
          fun i => profiles.get i⟩ := by
  rw [candidates_eq_map, search, Search.first_map]
  rfl

/-- Where the winner stands among the candidates: only such that do not apply stand in front. -/
theorem Wins.split (h : Wins r profiles i) :
    ∃ front back, places profiles = front ++ i :: back ∧
      (∀ j ∈ front, (profiles.get j).applies r = false) := by
  obtain ⟨front, back, heq⟩ := List.append_of_mem (mem_places.mpr h.published)
  refine ⟨front, back, heq, fun j hj => ?_⟩
  have hji : rank profiles j < rank profiles i := by
    have hpw := pairwise_places profiles
    rw [heq] at hpw
    exact (List.pairwise_append.mp hpw).2.2 j hj i (.head back)
  have hjp : (profiles.get j).isPublished = true :=
    mem_places.mp (heq ▸ List.mem_append_left _ hj)
  by_contra hja
  rw [Bool.not_eq_false] at hja
  exact absurd (h.least j hjp hja) hji.not_ge

/-- The first candidate that applies is the winner. -/
theorem wins_of_split {front back : List (Fin profiles.length)}
    (heq : places profiles = front ++ i :: back)
    (hfront : ∀ j ∈ front, (profiles.get j).applies r = false)
    (hi : (profiles.get i).applies r = true) :
    Wins r profiles i := by
  have hpw := pairwise_places profiles
  rw [heq] at hpw
  refine ⟨mem_places.mp (heq ▸ by simp), hi, fun j hjp hja => ?_⟩
  have hj := mem_places.mpr hjp
  rw [heq, List.mem_append, List.mem_cons] at hj
  rcases hj with hj | rfl | hj
  · rw [hfront j hj] at hja; cases hja
  · exact le_refl _
  · exact ((List.pairwise_cons.mp (List.pairwise_append.mp hpw).2.1).1 j hj).le

/-- A resource has a winner, or no published profile applies to it. -/
theorem forall_or_exists_wins (r : Resource α) (profiles : List (Profile α)) :
    (∀ i ∈ places profiles, (profiles.get i).applies r = false) ∨ ∃ i, Wins r profiles i := by
  rcases Search.forall_or_split (fun i => (profiles.get i).applies r) (places profiles) with
    h | ⟨front, i, back, heq, hfront, hi⟩
  · exact Or.inl h
  · exact Or.inr ⟨i, wins_of_split heq hfront hi⟩

/-! ## What the search finds -/

theorem search_eq_of_forall (h : ∀ i ∈ places profiles, (profiles.get i).applies r = false) :
    search r (candidates profiles) = ⟨none, candidates profiles⟩ := by
  rw [search_candidates, Search.first_of_forall h, candidates_eq_map]

theorem search_eq_of_split {front back : List (Fin profiles.length)}
    (heq : places profiles = front ++ i :: back)
    (hfront : ∀ j ∈ front, (profiles.get j).applies r = false)
    (hi : (profiles.get i).applies r = true) :
    search r (candidates profiles) =
      ⟨some front.length, (front ++ [i]).map fun j => profiles.get j⟩ := by
  rw [search_candidates, heq, Search.first_append_cons hfront hi]

theorem match?_eq_none (h : ∀ i ∈ places profiles, (profiles.get i).applies r = false) :
    match? r profiles = none := by
  rw [match?, search_eq_of_forall h]
  rfl

theorem Wins.match?_eq (h : Wins r profiles i) : match? r profiles = some (profiles.get i) := by
  obtain ⟨front, back, heq, hfront⟩ := h.split
  rw [match?, search_eq_of_split heq hfront h.applies, candidates_eq_map, heq]
  simp

theorem match?_eq_some_iff {p : Profile α} :
    match? r profiles = some p ↔ ∃ i, Wins r profiles i ∧ profiles.get i = p := by
  constructor
  · intro h
    rcases forall_or_exists_wins r profiles with hnone | ⟨i, hi⟩
    · rw [match?_eq_none hnone] at h; cases h
    · rw [hi.match?_eq] at h
      exact ⟨i, hi, Option.some.inj h⟩
  · rintro ⟨i, hi, rfl⟩
    exact hi.match?_eq

theorem match?_eq_none_iff :
    match? r profiles = none ↔ ∀ p ∈ profiles, p.isPublished = true → p.applies r = false := by
  constructor
  · intro h p hp hpub
    obtain ⟨i, hi, rfl⟩ := List.getElem_of_mem hp
    rcases forall_or_exists_wins r profiles with hnone | ⟨j, hj⟩
    · exact hnone ⟨i, hi⟩ (mem_places.mpr hpub)
    · rw [hj.match?_eq] at h; cases h
  · intro h
    exact match?_eq_none fun i hi => h _ (List.getElem_mem i.2) (mem_places.mp hi)

/-! ## What the search looks at -/

/-- What the search looks at: the published positions up to the winner, in the order of their
ranks. -/
theorem exists_tried (r : Resource α) (profiles : List (Profile α)) :
    ∃ looked : List (Fin profiles.length),
      (search r (candidates profiles)).tried = looked.map (fun j => profiles.get j) ∧
      looked.Pairwise (fun i j => rank profiles i < rank profiles j) ∧
      ∀ j, j ∈ looked ↔ (profiles.get j).isPublished = true ∧
        ∀ i, Wins r profiles i → rank profiles j ≤ rank profiles i := by
  have hpw := pairwise_places profiles
  rcases forall_or_exists_wins r profiles with hnone | ⟨i, hi⟩
  · refine ⟨places profiles, ?_, hpw, fun j => ?_⟩
    · rw [search_eq_of_forall hnone, candidates_eq_map]
    · rw [mem_places]
      refine ⟨fun hj => ⟨hj, fun i hi => ?_⟩, And.left⟩
      have hia := hnone i (mem_places.mpr hi.published)
      rw [hi.applies] at hia
      cases hia
  · obtain ⟨front, back, heq, hfront⟩ := hi.split
    rw [heq] at hpw
    obtain ⟨hpfront, hpback, hcross⟩ := List.pairwise_append.mp hpw
    refine ⟨front ++ [i], ?_, ?_, fun j => ?_⟩
    · rw [search_eq_of_split heq hfront hi.applies]
    · refine List.pairwise_append.mpr ⟨hpfront, List.pairwise_singleton _ _, fun j hj k hk => ?_⟩
      rw [List.mem_singleton.mp hk]
      exact hcross j hj i (.head back)
    · rw [← mem_places, heq, List.mem_append, List.mem_singleton, List.mem_append, List.mem_cons]
      constructor
      · rintro (hj | rfl)
        · refine ⟨Or.inl hj, fun k hk => ?_⟩
          rw [hk.unique hi]
          exact (hcross j hj i (.head back)).le
        · exact ⟨Or.inr (Or.inl rfl), fun k hk => (congrArg _ (hk.unique hi)).ge⟩
      · rintro ⟨hj | rfl | hj, hle⟩
        · exact Or.inl hj
        · exact Or.inr rfl
        · exact absurd (hle i hi) ((List.pairwise_cons.mp hpback).1 j hj).not_ge

/-- The profile that prices a resource is the published profile of least rank that applies, and there
is none only if no published profile applies. The search looks at the published profiles in the order
of their ranks, up to the winner and never behind it, so it evaluates the rules of the winner and of
every published profile of lower rank, or of all published profiles if nothing matches. -/
theorem first_match_wins (r : Resource α) (profiles : List (Profile α)) :
    (match? r profiles = none ↔
      ∀ p ∈ profiles, p.isPublished = true → p.applies r = false) ∧
    (∀ p, match? r profiles = some p ↔ ∃ i, Wins r profiles i ∧ profiles.get i = p) ∧
    (match? r profiles = none →
      (search r (candidates profiles)).evaluations = profiles.countP isPublished) ∧
    (∀ i, Wins r profiles i →
      (search r (candidates profiles)).evaluations =
        1 + (List.finRange profiles.length).countP fun j =>
          (profiles.get j).isPublished && decide (rank profiles j < rank profiles i)) ∧
    ∃ looked : List (Fin profiles.length),
      (search r (candidates profiles)).tried = looked.map (fun j => profiles.get j) ∧
      looked.Pairwise (fun i j => rank profiles i < rank profiles j) ∧
      ∀ j, j ∈ looked ↔ (profiles.get j).isPublished = true ∧
        ∀ i, Wins r profiles i → rank profiles j ≤ rank profiles i := by
  refine ⟨match?_eq_none_iff, fun p => match?_eq_some_iff, ?_, ?_, ?_⟩
  · intro h
    rcases forall_or_exists_wins r profiles with hnone | ⟨i, hi⟩
    · rw [search_eq_of_forall hnone, Search.evaluations, candidates,
        (Sorting.stableSort_perm _ _).length_eq, List.countP_eq_length_filter]
    · rw [hi.match?_eq] at h; cases h
  · intro i hi
    obtain ⟨front, back, heq, hfront⟩ := hi.split
    rw [search_eq_of_split heq hfront hi.applies, Search.evaluations, List.length_map,
      List.length_append, ← length_front heq, List.length_singleton, Nat.add_comm]
  · exact exists_tried r profiles

theorem first_match_wins_tied :
    Wins Sample.machine Sample.tied ⟨1, by decide⟩ ∧
      match? Sample.machine Sample.tied = some (Sample.profile .published 2 Sample.everything) ∧
      (search Sample.machine (candidates Sample.tied)).evaluations = 2 := by
  have hwins : Wins Sample.machine Sample.tied ⟨1, by decide⟩ := by decide
  obtain ⟨-, hsome, -, hcount, -⟩ := first_match_wins Sample.machine Sample.tied
  exact ⟨hwins, (hsome _).mpr ⟨_, hwins, rfl⟩, hcount _ hwins⟩

end Profile

end Chargeback
