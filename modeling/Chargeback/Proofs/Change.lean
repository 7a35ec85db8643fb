import Mathlib.Tactic.ByContra
import Chargeback.Proofs.Lifecycle
import Chargeback.Store.Change

/-!
# What a change does to a store

Every change of a store is one equation: for which reason it fails, and else what the store becomes.
Read as a relation (`Becomes`), a change that succeeds appends one profile, puts one in the place of
another, or takes one out.
-/

namespace Chargeback

namespace Store

variable {α : Type}

/-! ## Each change -/

theorem position?_of_position {s : Store α} {key : String} {i : Fin s.profiles.length}
    (hi : s.position key = .ok i) : s.position? key = some i := by
  rw [position] at hi
  split at hi
  · rename_i found
    rw [found, Except.ok.inj hi]
  · cases hi

theorem delete_of_position {s : Store α} {key : String} {i : Fin s.profiles.length}
    (hi : s.position? key = some i) :
    s.delete key = .ok (s.profiles.get i, ⟨s.profiles.eraseIdx i⟩) := by
  rw [delete, remove, position, hi]
  rfl

theorem add_eq (s : Store α) (p : Profile α) :
    s.add p =
      if s.isTaken p.name none = true then .error (.duplicateName (Text.trim p.name))
      else .ok ⟨s.profiles ++ [p]⟩ := by
  rw [add, checkName]
  split
  · rfl
  · rfl

variable [Scalar α]

theorem create_eq (s : Store α) (edited : Profile α) (id : String) (now : Instant) :
    s.create edited id now =
      if edited.problems = [] then
        if s.isTaken edited.name none = true then
          .error (.store (.duplicateName (Text.trim edited.name)))
        else .ok (edited.drafted id now, ⟨s.profiles ++ [edited.drafted id now]⟩)
      else .error (.lifecycle (.invalidProfile edited.name edited.problems)) := by
  rw [create, Profile.create_eq]
  by_cases hvalid : edited.problems = []
  · by_cases htaken : s.isTaken edited.name none = true
    · rw [if_pos hvalid, if_pos hvalid, if_pos htaken]
      simp only [bind, Except.bind, Except.mapError, add_eq, Profile.name_drafted, htaken, if_true]
    · rw [if_pos hvalid, if_pos hvalid, if_neg htaken]
      simp only [bind, Except.bind, Except.mapError, add_eq, Profile.name_drafted, htaken]
      rfl
  · rw [if_neg hvalid, if_neg hvalid]
    rfl

theorem updateAt_eq (s : Store α) (i : Fin s.profiles.length) (edited : Profile α)
    (now : Instant) :
    s.updateAt i edited now =
      if edited.problems = [] then
        if s.isTaken edited.name (some i) = true then
          .error (.store (.duplicateName (Text.trim edited.name)))
        else
          .ok ((s.profiles.get i).rewritten edited now,
            s.replace i ((s.profiles.get i).rewritten edited now))
      else .error (.lifecycle (.invalidProfile edited.name edited.problems)) := by
  rw [updateAt, Profile.update_eq]
  by_cases hvalid : edited.problems = []
  · by_cases htaken : s.isTaken edited.name (some i) = true
    · rw [if_pos hvalid, if_pos hvalid, if_pos htaken]
      simp only [bind, Except.bind, Except.mapError, checkName, Profile.name_rewritten, htaken,
        if_true]
    · rw [if_pos hvalid, if_pos hvalid, if_neg htaken]
      simp only [bind, Except.bind, Except.mapError, checkName, Profile.name_rewritten, htaken]
      rfl
  · rw [if_neg hvalid, if_neg hvalid]
    rfl

theorem update_of_position {s : Store α} {key : String} {i : Fin s.profiles.length}
    (hi : s.position? key = some i) (edited : Profile α) (now : Instant) :
    s.update key edited now = s.updateAt i edited now := by
  rw [update, position, hi]
  simp only [bind, Except.bind, Except.mapError]

theorem move_of_position {s : Store α} {key : String} {i : Fin s.profiles.length}
    (hi : s.position? key = some i) (target : Status) (now : Instant) :
    s.move key target now =
      match (s.profiles.get i).moveTo target now with
      | .ok moved => .ok ⟨s.profiles.get i, moved, s.replace i moved⟩
      | .error e => .error (.lifecycle e) := by
  rw [move, position, hi]
  simp only [bind, Except.bind, Except.mapError]
  cases (s.profiles.get i).moveTo target now with
  | ok moved => rfl
  | error e => rfl

/-! ## A change that succeeds -/

/-- What a change that succeeds makes of a store. -/
inductive Becomes (s : Store α) (id : String) (now : Instant) : Change α → Store α → Prop where
  | create {edited : Profile α} (valid : edited.problems = [])
      (free : s.isTaken edited.name none = false) :
      Becomes s id now (.create edited) ⟨s.profiles ++ [edited.drafted id now]⟩
  | update {key : String} {edited : Profile α} {i : Fin s.profiles.length}
      (found : s.position? key = some i) (valid : edited.problems = [])
      (free : s.isTaken edited.name (some i) = false) :
      Becomes s id now (.update key edited)
        (s.replace i ((s.profiles.get i).rewritten edited now))
  | move {key : String} {target : Status} {i : Fin s.profiles.length}
      (found : s.position? key = some i)
      (step : (s.profiles.get i).status.canMoveTo target = true)
      (valid : target = .published → (s.profiles.get i).problems = []) :
      Becomes s id now (.move key target) (s.replace i ((s.profiles.get i).moved target now))
  | delete {key : String} {i : Fin s.profiles.length} (found : s.position? key = some i) :
      Becomes s id now (.delete key) ⟨s.profiles.eraseIdx i⟩

variable {s s' : Store α} {id : String} {now : Instant}

theorem becomes_of_create {edited : Profile α}
    (h : s.apply id now (.create edited) = .ok s') : s.Becomes id now (.create edited) s' := by
  rw [apply, create_eq] at h
  by_cases hvalid : edited.problems = []
  · by_cases htaken : s.isTaken edited.name none = true
    · rw [if_pos hvalid, if_pos htaken] at h; cases h
    · rw [if_pos hvalid, if_neg htaken] at h
      cases h
      exact .create hvalid (Bool.not_eq_true _ ▸ htaken)
  · rw [if_neg hvalid] at h; cases h

theorem becomes_of_update {key : String} {edited : Profile α}
    (h : s.apply id now (.update key edited) = .ok s') :
    s.Becomes id now (.update key edited) s' := by
  rw [apply] at h
  cases hi : s.position? key with
  | none =>
    rw [update, position, hi] at h
    cases h
  | some i =>
    rw [update_of_position hi, updateAt_eq] at h
    by_cases hvalid : edited.problems = []
    · by_cases htaken : s.isTaken edited.name (some i) = true
      · rw [if_pos hvalid, if_pos htaken] at h; cases h
      · rw [if_pos hvalid, if_neg htaken] at h
        cases h
        exact .update hi hvalid (Bool.not_eq_true _ ▸ htaken)
    · rw [if_neg hvalid] at h; cases h

theorem becomes_of_move {key : String} {target : Status}
    (h : s.apply id now (.move key target) = .ok s') :
    s.Becomes id now (.move key target) s' := by
  rw [apply] at h
  cases hi : s.position? key with
  | none =>
    rw [move, position, hi] at h
    cases h
  | some i =>
    rw [move_of_position hi] at h
    cases hmoved : (s.profiles.get i).moveTo target now with
    | error e =>
      rw [hmoved] at h
      cases h
    | ok moved =>
      rw [hmoved] at h
      cases h
      obtain ⟨step, valid, rfl⟩ := Profile.moveTo_eq_ok_iff.mp hmoved
      exact .move hi step valid

theorem becomes_of_delete {key : String} (h : s.apply id now (.delete key) = .ok s') :
    s.Becomes id now (.delete key) s' := by
  rw [apply] at h
  cases hi : s.position? key with
  | none =>
    rw [delete, remove, position, hi] at h
    cases h
  | some i =>
    rw [delete_of_position hi] at h
    cases h
    exact .delete hi

/-- A change that succeeds appends, replaces or takes out one profile. -/
theorem becomes_of_apply {c : Change α} (h : s.apply id now c = .ok s') :
    s.Becomes id now c s' := by
  cases c with
  | create edited => exact becomes_of_create h
  | update key edited => exact becomes_of_update h
  | move key target => exact becomes_of_move h
  | delete key => exact becomes_of_delete h

end Store

/-! ## Attempts -/

/-- An attempt to change a store. -/
structure Attempt (α : Type) where
  change : Change α
  /-- The identifier that a new profile gets. -/
  freshId : String
  now : Instant

namespace Attempt

variable {α : Type} [Scalar α] {a : Attempt α} {s s' : Store α}

/-- The store behind an attempt, if it succeeds. -/
def result? (a : Attempt α) (s : Store α) : Option (Store α) :=
  (s.apply a.freshId a.now a.change).toOption

theorem becomes_of_result? (h : a.result? s = some s') : s.Becomes a.freshId a.now a.change s' := by
  rw [result?] at h
  cases hs : s.apply a.freshId a.now a.change with
  | ok store =>
    rw [hs] at h
    cases h
    exact Store.becomes_of_apply hs
  | error e =>
    rw [hs] at h
    cases h

/-- The store behind an attempt. One that fails changes nothing. -/
def after (a : Attempt α) (s : Store α) : Store α := (a.result? s).getD s

end Attempt

/-- The store behind a sequence of attempts. -/
def Store.run {α : Type} [Scalar α] (s : Store α) (attempts : List (Attempt α)) : Store α :=
  attempts.foldl (fun s a => a.after s) s

end Chargeback
