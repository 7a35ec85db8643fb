import Mathlib.Data.Int.Order.Basic
import Mathlib.Data.List.Lex
import Mathlib.Logic.Function.Iterate
import Mathlib.Order.Lattice
import Chargeback.Proofs.Validity

/-!
# The life of a profile over many steps

A profile is moved, edited and replaced by new ones, in any order and at any times, and steps that are
refused leave it as it is. What a step that succeeds can do is said once (`LifecycleStep.Becomes`). From this
follows what holds along every run: the identifier and the status go on from the stored profile, whatever
an edit carries; the status goes round the cycle of the workflow, one step for each move; and of the two
dates the later one is that of the last step and the earlier one stays, once it is there.
-/

namespace Chargeback

/-! ## The order of instants -/

namespace Instant

/-- The parts of an instant, the largest unit first. -/
def parts (t : Instant) : List ℤ := [t.year, t.month, t.day, t.hour, t.minute, t.second, t.nano]

/-- An instant is before another one if the largest unit in which they differ says so. A leap second comes
behind the other seconds of its minute. -/
instance : Preorder Instant := Preorder.lift parts

instance (s t : Instant) : Decidable (s ≤ t) := inferInstanceAs (Decidable (s.parts ≤ t.parts))

end Instant

/-! ## Steps -/

/-- The status behind a status in the cycle of the workflow. -/
def Status.next : Status → Status
  | draft => inReview
  | inReview => published
  | published => draft

theorem Status.canMoveTo_iff {s t : Status} : s.canMoveTo t = true ↔ t = s.next := by
  cases s <;> cases t <;> decide

/-- What can be done to the current profile. -/
inductive LifecycleStep (α : Type) where
  /-- It is moved to another status. -/
  | move (target : Status) (now : Instant)
  /-- A new draft takes its place. -/
  | create (edited : Profile α) (id : String) (now : Instant)
  /-- It is edited. -/
  | update (edited : Profile α) (now : Instant)

namespace LifecycleStep

variable {α : Type}

/-- The time of a step. -/
def now : LifecycleStep α → Instant
  | move _ now => now
  | create _ _ now => now
  | update _ now => now

/-- Whether a step is a move. -/
def isMove : LifecycleStep α → Bool
  | move _ _ => true
  | _ => false

/-- Whether a step is a creation. -/
def isCreation : LifecycleStep α → Bool
  | create _ _ _ => true
  | _ => false

variable [Scalar α]

/-- The profile that a step makes of the current one, or the reason why it is refused. -/
def attempt (s : LifecycleStep α) (p : Profile α) : Except LifecycleError (Profile α) :=
  match s with
  | move target now => p.moveTo target now
  | create edited id now => edited.create id now
  | update edited now => p.update edited now

/-- What a step that succeeds makes of a profile. -/
inductive Becomes (p : Profile α) : LifecycleStep α → Profile α → Prop where
  | move {target : Status} {now : Instant} (step : target = p.status.next)
      (valid : target = .published → p.problems = []) :
      Becomes p (.move target now) (p.moved target now)
  | create {edited : Profile α} {id : String} {now : Instant} (valid : edited.problems = []) :
      Becomes p (.create edited id now) (edited.drafted id now)
  | update {edited : Profile α} {now : Instant} (valid : edited.problems = []) :
      Becomes p (.update edited now) (p.rewritten edited now)

theorem attempt_eq_ok_iff {s : LifecycleStep α} {p q : Profile α} :
    s.attempt p = .ok q ↔ Becomes p s q := by
  constructor
  · intro h
    cases s with
    | move target now =>
      obtain ⟨step, valid, rfl⟩ := Profile.moveTo_eq_ok_iff.mp h
      exact .move (Status.canMoveTo_iff.mp step) valid
    | create edited id now =>
      obtain ⟨valid, rfl⟩ := Profile.create_eq_ok_iff.mp h
      exact .create valid
    | update edited now =>
      obtain ⟨valid, rfl⟩ := Profile.update_eq_ok_iff.mp h
      exact .update valid
  · intro h
    cases h with
    | move step valid =>
      exact Profile.moveTo_eq_ok_iff.mpr ⟨Status.canMoveTo_iff.mpr step, valid, rfl⟩
    | create valid => exact Profile.create_eq_ok_iff.mpr ⟨valid, rfl⟩
    | update valid => exact Profile.update_eq_ok_iff.mpr ⟨valid, rfl⟩

end LifecycleStep

/-! ## Runs -/

namespace Profile

open LifecycleStep

variable {α : Type} [Scalar α] {p q : Profile α} {s : LifecycleStep α} {steps : List (LifecycleStep α)}

/-- The profile behind a step. A step that is refused changes nothing. -/
def behind (p : Profile α) (s : LifecycleStep α) : Profile α :=
  match s.attempt p with
  | .ok q => q
  | .error _ => p

/-- The profile behind a sequence of steps. -/
def run (p : Profile α) (steps : List (LifecycleStep α)) : Profile α := steps.foldl behind p

theorem run_append (p : Profile α) (steps more : List (LifecycleStep α)) :
    p.run (steps ++ more) = (p.run steps).run more :=
  List.foldl_append

/-- The steps of a sequence that succeed. -/
def succeeding (p : Profile α) : List (LifecycleStep α) → List (LifecycleStep α)
  | [] => []
  | s :: rest =>
    match s.attempt p with
    | .ok q => s :: succeeding q rest
    | .error _ => succeeding p rest

/-- A run goes on behind its first step, which succeeds or changes nothing. -/
theorem run_cases (p : Profile α) (s : LifecycleStep α) (rest : List (LifecycleStep α)) :
    (∃ q, Becomes p s q ∧ p.run (s :: rest) = q.run rest ∧
      p.succeeding (s :: rest) = s :: q.succeeding rest) ∨
    (p.run (s :: rest) = p.run rest ∧ p.succeeding (s :: rest) = p.succeeding rest) := by
  cases hattempt : s.attempt p with
  | ok q =>
    refine .inl ⟨q, attempt_eq_ok_iff.mp hattempt, ?_, ?_⟩
    · rw [run, List.foldl_cons, behind, hattempt]
      rfl
    · rw [succeeding, hattempt]
  | error e =>
    refine .inr ⟨?_, ?_⟩
    · rw [run, List.foldl_cons, behind, hattempt]
      rfl
    · rw [succeeding, hattempt]

/-! ### The date of the last change -/

theorem modified_of_becomes (h : Becomes p s q) : q.modified = some s.now := by
  cases h <;> rfl

theorem modified_run (p : Profile α) (steps : List (LifecycleStep α)) :
    (p.run steps).modified = ((p.succeeding steps).getLast?.map now).or p.modified := by
  induction steps generalizing p with
  | nil => rfl
  | cons s rest ih =>
    rcases run_cases p s rest with ⟨q, hq, hrun, hdone⟩ | ⟨hrun, hdone⟩
    · rw [hrun, hdone, ih, modified_of_becomes hq, List.getLast?_cons]
      cases (q.succeeding rest).getLast? <;> rfl
    · rw [hrun, hdone, ih]

/-! ### What stays between creations -/

theorem keeps_of_becomes (h : Becomes p s q) (hs : s.isCreation = false) :
    q.id = p.id ∧ q.status = (if s.isMove then p.status.next else p.status) ∧
      ∀ t, p.created = some t → q.created = some t := by
  cases h with
  | move step => exact ⟨rfl, step, fun t ht => by rw [moved, ht, Option.some_or]⟩
  | create => cases hs
  | update => exact ⟨rfl, rfl, fun t ht => by rw [rewritten, ht, Option.some_or]⟩

theorem keeps_run (h : ∀ s ∈ p.succeeding steps, s.isCreation = false) :
    (p.run steps).id = p.id ∧
      (p.run steps).status = Status.next^[(p.succeeding steps).countP isMove] p.status ∧
      ∀ t, p.created = some t → (p.run steps).created = some t := by
  induction steps generalizing p with
  | nil => exact ⟨rfl, rfl, fun _ ht => ht⟩
  | cons s rest ih =>
    rcases run_cases p s rest with ⟨q, hq, hrun, hdone⟩ | ⟨hrun, hdone⟩
    · rw [hdone, List.forall_mem_cons] at h
      obtain ⟨hid, hstatus, hcreated⟩ := keeps_of_becomes hq h.1
      obtain ⟨hidRest, hstatusRest, hcreatedRest⟩ := ih h.2
      rw [hrun, hdone]
      refine ⟨hidRest.trans hid, ?_, fun t ht => hcreatedRest t (hcreated t ht)⟩
      rw [hstatusRest, hstatus, List.countP_cons]
      split
      · rfl
      · rfl
    · rw [hdone] at h
      rw [hrun, hdone]
      exact ih h

/-! ### The date of creation -/

/-- The date of creation, if there is one, is not after that of the last change, nor after any step to
come. -/
def IsDatedBefore (p : Profile α) (steps : List (LifecycleStep α)) : Prop :=
  ∀ t, p.created = some t → (∃ m, p.modified = some m ∧ t ≤ m) ∧ ∀ s ∈ steps, t ≤ s.now

theorem created_of_becomes (h : Becomes p s q) :
    q.created = if s.isCreation then some s.now else p.created.or (some s.now) := by
  cases h <;> rfl

theorem created_of_becomes_of_unset (h : Becomes p s q)
    (hunset : p.created = none ∨ s.isCreation = true) : q.created = some s.now := by
  rw [created_of_becomes h]
  rcases hunset with hnone | hcreation
  · rw [hnone, Option.none_or, ite_self]
  · rw [if_pos hcreation]

theorem isDatedBefore_of_created (hq : Becomes p s q) (hcreated : q.created = some s.now)
    (hsteps : ∀ s' ∈ steps, s.now ≤ s'.now) : q.IsDatedBefore steps := by
  intro t ht
  obtain rfl : s.now = t := Option.some.inj (hcreated.symm.trans ht)
  exact ⟨⟨s.now, modified_of_becomes hq, le_refl s.now⟩, hsteps⟩

theorem IsDatedBefore.of_becomes (hp : p.IsDatedBefore (s :: steps)) (hq : Becomes p s q)
    (hsteps : ∀ s' ∈ steps, s.now ≤ s'.now) : q.IsDatedBefore steps := by
  by_cases hunset : p.created = none ∨ s.isCreation = true
  · exact isDatedBefore_of_created hq (created_of_becomes_of_unset hq hunset) hsteps
  · obtain ⟨hdated, hother⟩ := not_or.mp hunset
    obtain ⟨t', ht'⟩ := Option.ne_none_iff_exists'.mp hdated
    intro t ht
    rw [created_of_becomes hq, if_neg hother, ht', Option.some_or, ← ht'] at ht
    obtain ⟨-, hlater⟩ := hp t ht
    rw [List.forall_mem_cons] at hlater
    exact ⟨⟨s.now, modified_of_becomes hq, hlater.1⟩, hlater.2⟩

theorem IsDatedBefore.run (hp : p.IsDatedBefore steps)
    (hsteps : steps.Pairwise fun s s' => s.now ≤ s'.now) : (p.run steps).IsDatedBefore [] := by
  induction steps generalizing p with
  | nil => exact hp
  | cons s rest ih =>
    obtain ⟨hfirst, hrest⟩ := List.pairwise_cons.mp hsteps
    rcases run_cases p s rest with ⟨q, hq, hrun, -⟩ | ⟨hrun, -⟩
    · rw [hrun]
      exact ih (hp.of_becomes hq hfirst) hrest
    · rw [hrun]
      refine ih (fun t ht => ?_) hrest
      obtain ⟨hmodified, hlater⟩ := hp t ht
      exact ⟨hmodified, (List.forall_mem_cons.mp hlater).2⟩

/-- A date of creation that was set during a run is not after the date of the last change, as long as time
does not go backwards. -/
theorem isDatedBefore_run (hsteps : steps.Pairwise fun s s' => s.now ≤ s'.now)
    (hset : p.created = none ∨ ∃ s ∈ p.succeeding steps, s.isCreation = true) :
    (p.run steps).IsDatedBefore [] := by
  induction steps generalizing p with
  | nil =>
    rcases hset with hnone | ⟨s, hs, -⟩
    · intro t ht
      rw [run, List.foldl_nil, hnone] at ht
      cases ht
    · cases hs
  | cons s rest ih =>
    obtain ⟨hfirst, hrest⟩ := List.pairwise_cons.mp hsteps
    rcases run_cases p s rest with ⟨q, hq, hrun, hdone⟩ | ⟨hrun, hdone⟩
    · rw [hrun]
      rw [hdone] at hset
      -- The date is set by this step, or else the creation is still to come.
      by_cases hnow : p.created = none ∨ s.isCreation = true
      · exact (isDatedBefore_of_created hq (created_of_becomes_of_unset hq hnow) hfirst).run hrest
      · obtain ⟨hdated, hother⟩ := not_or.mp hnow
        obtain ⟨s', hs', hcreation⟩ := hset.resolve_left hdated
        rcases List.mem_cons.mp hs' with rfl | hs'
        · exact absurd hcreation hother
        · exact ih hrest (.inr ⟨s', hs', hcreation⟩)
    · rw [hrun]
      rw [hdone] at hset
      exact ih hrest hset

/-! ### Identity, workflow and dates -/

theorem moveTo_succeeds_iff {target : Status} {now : Instant} :
    (∃ q, p.moveTo target now = .ok q) ↔
      p.status = .draft ∧ target = .inReview ∨
        p.status = .inReview ∧ target = .published ∧ p.problems = [] ∨
        p.status = .published ∧ target = .draft := by
  simp only [moveTo_eq_ok_iff, exists_and_left, exists_eq, and_true]
  cases p.status <;> cases target <;> simp [Status.canMoveTo]

/-- A move follows the workflow and writes the status and the dates only; a creation gives a draft with a
new identifier and an edit keeps identifier and status, and both need a valid profile. So between two
creations the identifier stays, the status goes one step around its cycle with every move, the date of the
last change is the time of the last step that succeeds, and the date of creation stays once it is there. If
it was set during a run and time does not go backwards, it is not after the date of the last change. -/
theorem runs_keep_identity_and_workflow (p : Profile α) (steps : List (LifecycleStep α)) :
    (∀ (c : Profile α) target now,
      ((∃ q, c.moveTo target now = .ok q) ↔
        c.status = .draft ∧ target = .inReview ∨
          c.status = .inReview ∧ target = .published ∧ c.problems = [] ∨
          c.status = .published ∧ target = .draft) ∧
      ∀ q, c.moveTo target now = .ok q →
        q = { c with status := target, created := q.created, modified := q.modified }) ∧
    (∀ (edited : Profile α) id now,
      ((∃ q, edited.create id now = .ok q) ↔ edited.problems = []) ∧
      ∀ q, edited.create id now = .ok q → q.status = .draft ∧ q.id = id) ∧
    (∀ (c edited : Profile α) now,
      ((∃ q, c.update edited now = .ok q) ↔ edited.problems = []) ∧
      ∀ q, c.update edited now = .ok q → q.id = c.id ∧ q.status = c.status) ∧
    (p.run steps).modified = ((p.succeeding steps).getLast?.map now).or p.modified ∧
    (∀ more, (∀ s ∈ (p.run steps).succeeding more, s.isCreation = false) →
      (p.run (steps ++ more)).id = (p.run steps).id ∧
      (p.run (steps ++ more)).status =
        Status.next^[((p.run steps).succeeding more).countP isMove] (p.run steps).status ∧
      ∀ t, (p.run steps).created = some t → (p.run (steps ++ more)).created = some t) ∧
    ((steps.Pairwise fun s s' => s.now ≤ s'.now) →
      (p.created = none ∨ ∃ s ∈ p.succeeding steps, s.isCreation = true) →
      ∀ t, (p.run steps).created = some t → ∃ m, (p.run steps).modified = some m ∧ t ≤ m) := by
  refine ⟨fun c target now => ⟨moveTo_succeeds_iff, fun q hq => ?_⟩,
    fun edited id now => ⟨?_, fun q hq => ?_⟩, fun c edited now => ⟨?_, fun q hq => ?_⟩,
    modified_run p steps, fun more hmore => ?_,
    fun hsteps hset t ht => (isDatedBefore_run hsteps hset t ht).1⟩
  · obtain ⟨-, -, rfl⟩ := moveTo_eq_ok_iff.mp hq
    rfl
  · simp only [create_eq_ok_iff, exists_and_left, exists_eq, and_true]
  · obtain ⟨-, rfl⟩ := create_eq_ok_iff.mp hq
    exact ⟨rfl, rfl⟩
  · simp only [update_eq_ok_iff, exists_and_left, exists_eq, and_true]
  · obtain ⟨-, rfl⟩ := update_eq_ok_iff.mp hq
    exact ⟨rfl, rfl⟩
  · rw [run_append]
    exact keeps_run hmore

end Profile

namespace Sample

def evening : Instant := { noon with hour := 20, valid := by decide }

/-- The steps from a draft to its publication, which is tried too early once, with an edit that carries
another identifier and status. -/
def publication : List (LifecycleStep ℚ) :=
  [.move .published noon, .update { live with id := "2", name := "Heat" } noon, .move .inReview noon,
    .move .published evening]

/-- The steps back, with a replacement that has no name and is refused. -/
def withdrawal : List (LifecycleStep ℚ) :=
  [.create { live with name := "" } "3" evening, .move .draft evening]

end Sample

theorem Profile.runs_keep_identity_and_workflow_publication :
    let q := Sample.cheaper.run Sample.publication
    let q' := Sample.cheaper.run (Sample.publication ++ Sample.withdrawal)
    q.status = .published ∧ q.modified = some Sample.evening ∧
      (∃ m, q.modified = some m ∧ Sample.noon ≤ m) ∧
      q'.id = q.id ∧ q'.status = .draft ∧ q'.created = some Sample.noon := by
  intro q q'
  obtain ⟨-, -, -, hmodified, hkept, hdated⟩ :=
    Profile.runs_keep_identity_and_workflow Sample.cheaper Sample.publication
  have hpublished : q.status = .published := by decide +kernel
  have hcreated : q.created = some Sample.noon := by decide +kernel
  obtain ⟨hid, hstatus, hstays⟩ := hkept Sample.withdrawal (by decide +kernel)
  refine ⟨hpublished, hmodified.trans (by decide +kernel), ?_, hid, ?_, hstays Sample.noon hcreated⟩
  · exact hdated (by decide +kernel) (.inl rfl) Sample.noon hcreated
  · exact hstatus.trans (by decide +kernel)

end Chargeback
