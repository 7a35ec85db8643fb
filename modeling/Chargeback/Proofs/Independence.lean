import Chargeback.Portfolio.Totals
import Chargeback.Proofs.AllOrNothing
import Chargeback.Proofs.ListEdits
import Chargeback.Proofs.Matching

/-!
# What prices do not depend on

Profiles that are not published have no influence on prices, and neither has the order of published
profiles of different priorities. The reason is that the candidates are made up of the published
profiles of each priority, and all breakdowns and totals are made from the candidates. So a command
of the store that leaves the published profiles as they are leaves all prices as they are: every
creation and submission does, and so does an update or a deletion of a profile that is not published.
-/

namespace Chargeback

/-! ## The candidates -/

namespace Profile

variable {α : Type} {profiles profiles' : List (Profile α)}

/-- The published profiles of a priority, in the order of a list. -/
def publishedAt (priority : Nat) (profiles : List (Profile α)) : List (Profile α) :=
  profiles.filter fun p => p.isPublished && decide (p.priority = priority)

theorem pairwise_candidates (profiles : List (Profile α)) :
    (candidates profiles).Pairwise fun p q => p.priority ≤ q.priority := by
  have hkey := Sorting.IsWeakOrder.of_key fun p : Profile α => p.priority
  have hall : (profiles.filter isPublished).Pairwise fun _ _ => True :=
    List.pairwise_of_forall fun _ _ => trivial
  refine (Sorting.pairwise_stableSort hkey hall).imp ?_
  intro p q hpq
  have hnot := hpq.not_before hkey
  exact not_lt.mp (of_decide_eq_false hnot)

theorem filter_candidates (priority : Nat) (profiles : List (Profile α)) :
    ((candidates profiles).filter fun p => decide (p.priority = priority)) =
      publishedAt priority profiles := by
  have hsame : ∀ p q : Profile α, decide (p.priority = priority) = true →
      decide (q.priority = priority) = true → decide (p.priority < q.priority) = false := by
    intro p q hp hq
    rw [of_decide_eq_true hp, of_decide_eq_true hq]
    exact decide_eq_false (lt_irrefl priority)
  unfold candidates publishedAt
  rw [Sorting.filter_stableSort hsame, List.filter_filter]
  simp only [Bool.and_comm]

/-- The published profiles of each priority determine the candidates. -/
theorem candidates_eq_of_publishedAt_eq
    (h : ∀ priority, publishedAt priority profiles = publishedAt priority profiles') :
    candidates profiles = candidates profiles' := by
  refine Sorting.eq_of_filter_key_eq (pairwise_candidates profiles) (pairwise_candidates profiles') ?_
  intro priority
  rw [filter_candidates, filter_candidates, h]

theorem candidates_eq_of_filter_eq
    (h : profiles.filter isPublished = profiles'.filter isPublished) :
    candidates profiles = candidates profiles' := by
  unfold candidates
  rw [h]

end Profile

theorem EngineOptions.portfolio_eq_of_candidates_eq {α : Type} [Scalar α] (o : EngineOptions α)
    {profiles profiles' : List (Profile α)}
    (h : Profile.candidates profiles = Profile.candidates profiles')
    (inventory : List (Resource α)) :
    o.portfolio profiles inventory = o.portfolio profiles' inventory := by
  unfold portfolio priceAll priceShared
  rw [h]

/-! ## Changes beside the published profiles -/

/-- A command that has nothing to do with published profiles: it creates or submits a profile, or it
updates or deletes one that is not published. -/
def StoreCommand.SparesPublished (s : Store Float) : StoreCommand → Prop
  | list _ => True
  | validate _ => True
  | create _ => True
  | update key _ => ∀ i, s.position? key = some i → (s.profiles.get i).isPublished = false
  | move _ target => target = .inReview
  | delete key => ∀ i, s.position? key = some i → (s.profiles.get i).isPublished = false

namespace Workspace

variable {w : Workspace} {s s' : Store Float} {c : StoreCommand}

theorem filter_isPublished_of_saves? (h : w.saves? s c = some s') (hc : c.SparesPublished s) :
    s'.profiles.filter Profile.isPublished = s.profiles.filter Profile.isPublished := by
  obtain ⟨change, hchange, hbecomes⟩ := becomes_of_saves? h
  cases c with
  | list status => cases hchange
  | validate key => cases hchange
  | create file =>
    obtain ⟨edited, -, rfl⟩ := definition_of_map hchange
    cases hbecomes with
    | create valid free => exact filter_append_of_neg rfl
  | update key file =>
    obtain ⟨edited, -, rfl⟩ := definition_of_map hchange
    cases hbecomes with
    | @update _ _ i found valid free =>
      have hstored : (s.profiles.get i).isPublished = false := hc i found
      exact filter_set_of_neg i hstored hstored
  | move key target =>
    obtain rfl := Option.some.inj hchange
    cases hbecomes with
    | @move _ _ i found step valid =>
      obtain rfl : target = .inReview := hc
      -- Only a draft can be submitted.
      have hstored : (s.profiles.get i).isPublished = false := by
        unfold Profile.isPublished
        cases hstatus : (s.profiles.get i).status with
        | draft => rfl
        | inReview => rfl
        | published =>
          rw [hstatus] at step
          cases step
      exact filter_set_of_neg i hstored rfl
  | delete key =>
    obtain rfl := Option.some.inj hchange
    cases hbecomes with
    | @delete _ i found => exact filter_eraseIdx_of_neg i (hc i found)

/-- Two lists with the same published profiles of each priority, in the same order, give the same
breakdowns and totals of every inventory. So a command that succeeds and spares the published profiles
writes a store that gives the same breakdowns and totals as the one that it has read. -/
theorem pricing_ignores_unpublished :
    (∀ profiles profiles' : List (Profile Float),
      (∀ priority, Profile.publishedAt priority profiles = Profile.publishedAt priority profiles') →
        ∀ (o : EngineOptions Float) (inventory : List (Resource Float)),
          o.portfolio profiles inventory = o.portfolio profiles' inventory) ∧
    ∀ (w : Workspace) (c : StoreCommand), c.isReport = false →
      (w.runStoreCommand c).failure = none →
        ∃ before after : Store Float, w.readStore = .ok before ∧ w.Edits before c after.profiles ∧
          (w.runStoreCommand c).writes = [(w.profiles, after.text)] ∧
          Store.Holds after.text after.profiles ∧
          (c.SparesPublished before →
            ∀ (o : EngineOptions Float) (inventory : List (Resource Float)),
              o.portfolio after.profiles inventory = o.portfolio before.profiles inventory) := by
  constructor
  · intro profiles profiles' hsame o inventory
    exact o.portfolio_eq_of_candidates_eq (Profile.candidates_eq_of_publishedAt_eq hsame) inventory
  · intro w c hc hok
    obtain ⟨store, hcommits, hstore⟩ := exists_commits (w := w) hc
    cases store with
    | none => exact absurd hok hcommits.1
    | some after =>
      obtain ⟨before, hbefore, hsaves⟩ := hstore after rfl
      have hedits := edits_of_saves? hsaves
      refine ⟨before, after, hbefore, hedits, hcommits.2, hedits.holds_text hbefore, ?_⟩
      intro hspares o inventory
      have hpublished := filter_isPublished_of_saves? hsaves hspares
      exact o.portfolio_eq_of_candidates_eq (Profile.candidates_eq_of_filter_eq hpublished) inventory

end Workspace

namespace Sample

/-- A profile without content. -/
def bare (status : Status) (priority : Nat) : Profile Float where
  id := ""
  name := ""
  description := ""
  status := status
  priority := priority
  model := .simple
  rules := .empty
  rates := []
  shared := .empty
  created := none
  modified := none

/-- Two published profiles behind a draft. -/
def behindDraft : List (Profile Float) := [bare .draft 0, bare .published 2, bare .published 1]

/-- The same published profiles alone, in the order in which they are tried. -/
def withoutDraft : List (Profile Float) := [bare .published 1, bare .published 2]

/-- The text of a store of a published profile and a draft. -/
def reviewText : String :=
  "[\x7b\"id\": \"1\", \"name\": \"Power\", \"status\": \"published\"\x7d, " ++
    "\x7b\"id\": \"2\", \"name\": \"Heat\"\x7d]"

/-- A workspace with this store. -/
def reviewWorkspace : Workspace where
  resources := "inventory.json"
  profiles := "store.json"
  currency := "A$"
  engine := .standard
  format := .table
  surroundings := { place with fileText := fun file =>
    if file = "store.json" then some reviewText else none }

end Sample

theorem Workspace.pricing_ignores_unpublished_submission :
    (∀ priority, Profile.publishedAt priority Sample.behindDraft =
      Profile.publishedAt priority Sample.withoutDraft) ∧
    (∀ (o : EngineOptions Float) (inventory : List (Resource Float)),
      o.portfolio Sample.behindDraft inventory = o.portfolio Sample.withoutDraft inventory) ∧
    (Sample.reviewWorkspace.runStoreCommand (.move "heat" .inReview)).failure = none ∧
    ∃ before after : Store Float, Sample.reviewWorkspace.readStore = .ok before ∧
      Sample.reviewWorkspace.Edits before (.move "heat" .inReview) after.profiles ∧
      (Sample.reviewWorkspace.runStoreCommand (.move "heat" .inReview)).writes =
        [("store.json", after.text)] ∧
      ∀ (o : EngineOptions Float) (inventory : List (Resource Float)),
        o.portfolio after.profiles inventory = o.portfolio before.profiles inventory := by
  have hsame : ∀ priority, Profile.publishedAt priority Sample.behindDraft =
      Profile.publishedAt priority Sample.withoutDraft := by
    intro priority
    match priority with
    | 0 => rfl
    | 1 => rfl
    | 2 => rfl
    | n + 3 => rfl
  have hok : (Sample.reviewWorkspace.runStoreCommand (.move "heat" .inReview)).failure = none := by
    decide +kernel
  obtain ⟨before, after, hbefore, hedits, hwrites, -, hpricing⟩ :=
    pricing_ignores_unpublished.2 Sample.reviewWorkspace (.move "heat" .inReview) rfl hok
  exact ⟨hsame, pricing_ignores_unpublished.1 _ _ hsame, hok, before, after, hbefore, hedits,
    hwrites, hpricing rfl⟩

end Chargeback
