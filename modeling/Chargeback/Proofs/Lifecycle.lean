import Chargeback.Lifecycle

/-!
# What a step in the life of a profile does

Every step either fails for a stated reason or gives a stated profile. What makes a profile valid is
its content alone, so the steps, which write identifiers, statuses and dates, keep its problems.
-/

namespace Chargeback.Profile

variable {α : Type}

/-! ## The results of the steps -/

/-- A profile with another status. -/
def moved (p : Profile α) (target : Status) (now : Instant) : Profile α :=
  { p with status := target, modified := some now, created := p.created.or (some now) }

/-- The draft that an edited profile becomes. -/
def drafted (edited : Profile α) (id : String) (now : Instant) : Profile α :=
  { edited with id := id, status := .draft, created := some now, modified := some now }

/-- A stored profile with the content of an edited one. -/
def rewritten (stored edited : Profile α) (now : Instant) : Profile α :=
  { edited with
    id := stored.id
    status := stored.status
    created := stored.created.or (some now)
    modified := some now }

@[simp]
theorem name_drafted (edited : Profile α) (id : String) (now : Instant) :
    (edited.drafted id now).name = edited.name := rfl

@[simp]
theorem name_rewritten (stored edited : Profile α) (now : Instant) :
    (stored.rewritten edited now).name = edited.name := rfl

variable [Scalar α]

@[simp]
theorem problems_moved (p : Profile α) (target : Status) (now : Instant) :
    (p.moved target now).problems = p.problems := rfl

@[simp]
theorem problems_drafted (edited : Profile α) (id : String) (now : Instant) :
    (edited.drafted id now).problems = edited.problems := rfl

@[simp]
theorem problems_rewritten (stored edited : Profile α) (now : Instant) :
    (stored.rewritten edited now).problems = edited.problems := rfl

/-! ## The steps -/

theorem validate_eq (p : Profile α) :
    p.validate =
      if p.problems = [] then .ok () else .error (.invalidProfile p.name p.problems) := by
  simp only [validate, List.isEmpty_iff]

/-- A move fails if the workflow has no such step, and a publication also if there are problems. -/
theorem moveTo_eq (p : Profile α) (target : Status) (now : Instant) :
    p.moveTo target now =
      if p.status.canMoveTo target = true then
        if target = .published ∧ p.problems ≠ [] then
          .error (.invalidProfile p.name p.problems)
        else .ok (p.moved target now)
      else .error (.invalidTransition p.name p.status target) := by
  rw [moveTo]
  split
  · by_cases htarget : target = .published
    · rw [if_pos htarget, validate_eq]
      by_cases hproblems : p.problems = []
      · rw [if_pos hproblems, if_neg fun h => h.2 hproblems]
        rfl
      · rw [if_neg hproblems, if_pos ⟨htarget, hproblems⟩]
        rfl
    · rw [if_neg htarget, if_neg fun h => htarget h.1]
      rfl
  · rfl

theorem create_eq (edited : Profile α) (id : String) (now : Instant) :
    edited.create id now =
      if edited.problems = [] then .ok (edited.drafted id now)
      else .error (.invalidProfile edited.name edited.problems) := by
  rw [create, validate_eq]
  split
  · rfl
  · rfl

theorem update_eq (stored edited : Profile α) (now : Instant) :
    stored.update edited now =
      if edited.problems = [] then .ok (stored.rewritten edited now)
      else .error (.invalidProfile edited.name edited.problems) := by
  rw [update, validate_eq]
  split
  · rfl
  · rfl

/-! ## Steps that succeed -/

section Success

variable {p q edited : Profile α} {now : Instant}

theorem moveTo_eq_ok_iff {target : Status} :
    p.moveTo target now = .ok q ↔
      p.status.canMoveTo target = true ∧ (target = .published → p.problems = []) ∧
        q = p.moved target now := by
  rw [moveTo_eq]
  split
  · rename_i hstep
    split
    · rename_i hinvalid
      exact ⟨nofun, fun ⟨_, hvalid, _⟩ => absurd (hvalid hinvalid.1) hinvalid.2⟩
    · rename_i hvalid
      constructor
      · rintro ⟨⟩
        exact ⟨hstep, fun htarget => Classical.not_not.mp fun hne => hvalid ⟨htarget, hne⟩, rfl⟩
      · rintro ⟨-, -, rfl⟩
        rfl
  · rename_i hstep
    exact ⟨nofun, fun h => absurd h.1 hstep⟩

theorem create_eq_ok_iff {id : String} :
    edited.create id now = .ok q ↔ edited.problems = [] ∧ q = edited.drafted id now := by
  rw [create_eq]
  split
  · simp [*, eq_comm]
  · simp [*]

theorem update_eq_ok_iff :
    p.update edited now = .ok q ↔ edited.problems = [] ∧ q = p.rewritten edited now := by
  rw [update_eq]
  split
  · simp [*, eq_comm]
  · simp [*]

end Success

/-! ## Steps that fail -/

/-- A valid profile can be published, unless the workflow has no such step. -/
theorem error_of_moveTo_published {p : Profile α} (hp : p.problems = []) {now : Instant}
    {e : LifecycleError} (h : p.moveTo .published now = .error e) :
    e = .invalidTransition p.name p.status .published := by
  rw [moveTo_eq] at h
  split at h
  · rw [if_neg fun hinvalid => hinvalid.2 hp] at h
    cases h
  · exact (Except.error.inj h).symm

end Chargeback.Profile
