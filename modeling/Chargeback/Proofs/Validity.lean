import Mathlib.Data.Rat.Init
import Chargeback.Proofs.Change

/-!
# Only valid profiles are published

A store is followed through any sequence of attempts to change it, together with a mark for every
profile that was created or updated on the way. One invariant carries the result: a profile that is
published or marked has no problems. The workflow asks for validity when a profile is saved and again
when it is published, and no other change touches what makes a profile valid.

Every command that changes the store is such an attempt, with any key and definition and at any time.
-/

namespace Chargeback

/-- A store, and for each of its profiles whether it was created or updated since the start. -/
structure History (α : Type) where
  store : Store α
  saved : List Bool

namespace History

variable {α : Type}

/-- A store of which nothing was created or updated yet. -/
def start (s : Store α) : History α := ⟨s, List.replicate s.profiles.length false⟩

/-- The marks behind a change that succeeds. -/
def marks (h : History α) : Change α → List Bool
  | .create _ => h.saved ++ [true]
  | .update key _ =>
    match h.store.position? key with
    | some i => h.saved.set i true
    | none => h.saved
  | .move _ _ => h.saved
  | .delete key =>
    match h.store.position? key with
    | some i => h.saved.eraseIdx i
    | none => h.saved

variable [Scalar α]

/-- The history behind an attempt. One that fails changes nothing. -/
def after (h : History α) (a : Attempt α) : History α :=
  match a.result? h.store with
  | some store => ⟨store, h.marks a.change⟩
  | none => h

/-- The history behind a sequence of attempts. -/
def run (h : History α) (attempts : List (Attempt α)) : History α := attempts.foldl after h

/-! ## The invariant -/

/-- A published or marked profile has no problems. -/
structure IsClean (h : History α) : Prop where
  length : h.saved.length = h.store.profiles.length
  valid : ∀ {i : ℕ} {p : Profile α} {mark : Bool}, h.store.profiles[i]? = some p →
    h.saved[i]? = some mark → p.isPublished = true ∨ mark = true → p.problems = []

theorem isClean_start {s : Store α}
    (hs : ∀ p ∈ s.profiles, p.isPublished = true → p.problems = []) : (start s).IsClean where
  length := List.length_replicate
  valid := by
    intro i p mark hp hmark h
    have hfalse : mark = false := List.eq_of_mem_replicate (List.mem_of_getElem? hmark)
    rcases h with hpub | htrue
    · exact hs p (List.mem_of_getElem? hp) hpub
    · rw [hfalse] at htrue; cases htrue

variable {h : History α}

theorem IsClean.problems_get (hc : h.IsClean) (i : Fin h.store.profiles.length)
    (hi : (h.store.profiles.get i).isPublished = true ∨ h.saved[(i : ℕ)]? = some true) :
    (h.store.profiles.get i).problems = [] := by
  have hmark : (i : ℕ) < h.saved.length := by
    rw [hc.length]
    exact i.isLt
  have hp := List.getElem?_eq_getElem i.isLt
  rcases hi with hpub | hsaved
  · exact hc.valid hp (List.getElem?_eq_getElem hmark) (.inl hpub)
  · exact hc.valid hp hsaved (.inr rfl)

/-- A valid profile at the end keeps the invariant, whatever its mark. -/
theorem IsClean.append (hc : h.IsClean) {q : Profile α} (hq : q.problems = []) (m : Bool) :
    IsClean ⟨⟨h.store.profiles ++ [q]⟩, h.saved ++ [m]⟩ where
  length := by
    show (h.saved ++ [m]).length = (h.store.profiles ++ [q]).length
    rw [List.length_append, List.length_append, hc.length]
    rfl
  valid := by
    intro i p mark hp hmark hor
    rw [List.getElem?_append] at hp hmark
    rw [hc.length] at hmark
    by_cases hi : i < h.store.profiles.length
    · rw [if_pos hi] at hp hmark
      exact hc.valid hp hmark hor
    · rw [if_neg hi] at hp
      have hpq : p = q := by
        have hmem := List.mem_of_getElem? hp
        exact List.mem_singleton.mp hmem
      rw [hpq, hq]

/-- A profile in the place of another one keeps the invariant, if it is valid whenever it is
published or its mark is set. -/
theorem IsClean.set (hc : h.IsClean) (k : Fin h.store.profiles.length) {q : Profile α} {m : Bool}
    (hq : q.isPublished = true ∨ m = true → q.problems = []) :
    IsClean ⟨h.store.replace k q, h.saved.set k m⟩ where
  length := by
    show (h.saved.set k m).length = (h.store.profiles.set k q).length
    rw [List.length_set, List.length_set, hc.length]
  valid := by
    intro i p mark hp hmark hor
    rw [Store.replace, List.getElem?_set] at hp
    rw [List.getElem?_set, hc.length] at hmark
    by_cases hi : (k : ℕ) = i
    · rw [if_pos hi, if_pos k.isLt] at hp hmark
      obtain rfl := Option.some.inj hp
      obtain rfl := Option.some.inj hmark
      exact hq hor
    · rw [if_neg hi] at hp hmark
      exact hc.valid hp hmark hor

/-- Without one of the profiles, and without its mark, the invariant stays. -/
theorem IsClean.eraseIdx (hc : h.IsClean) (k : Fin h.store.profiles.length) :
    IsClean ⟨⟨h.store.profiles.eraseIdx k⟩, h.saved.eraseIdx k⟩ where
  length := by
    show (h.saved.eraseIdx k).length = (h.store.profiles.eraseIdx k).length
    rw [List.length_eraseIdx, List.length_eraseIdx, hc.length]
  valid := by
    intro i p mark hp hmark hor
    rw [List.getElem?_eraseIdx] at hp hmark
    by_cases hi : i < (k : ℕ)
    · rw [if_pos hi] at hp hmark
      exact hc.valid hp hmark hor
    · rw [if_neg hi] at hp hmark
      exact hc.valid hp hmark hor

/-! ## Steps and runs -/

/-- A profile with another status keeps its mark. It is valid if it is published or marked: the
workflow asks for that when it publishes, and the move leaves the content alone. -/
theorem IsClean.set_moved (hc : h.IsClean) (i : Fin h.store.profiles.length) {target : Status}
    (valid : target = .published → (h.store.profiles.get i).problems = []) (now : Instant) :
    IsClean ⟨h.store.replace i ((h.store.profiles.get i).moved target now), h.saved⟩ := by
  have hi : (i : ℕ) < h.saved.length := by
    rw [hc.length]
    exact i.isLt
  have hq : ((h.store.profiles.get i).moved target now).isPublished = true ∨
      h.saved[(i : ℕ)] = true → ((h.store.profiles.get i).moved target now).problems = [] := by
    rw [Profile.problems_moved]
    rintro (hpub | hmark)
    · exact valid (of_decide_eq_true hpub)
    · refine hc.problems_get i (.inr ?_)
      rw [List.getElem?_eq_getElem hi, hmark]
  have hset := hc.set i hq
  rw [List.set_getElem_self] at hset
  exact hset

/-- A change that succeeds keeps the invariant. -/
theorem IsClean.of_becomes (hc : h.IsClean) {id : String} {now : Instant} {c : Change α}
    {s : Store α} (hs : h.store.Becomes id now c s) : IsClean ⟨s, h.marks c⟩ := by
  cases hs with
  | @create edited valid free =>
    have hq : (edited.drafted id now).problems = [] := by
      rw [Profile.problems_drafted, valid]
    exact hc.append hq true
  | @update key edited i found valid free =>
    have hq : ((h.store.profiles.get i).rewritten edited now).problems = [] := by
      rw [Profile.problems_rewritten, valid]
    rw [marks, found]
    exact hc.set i fun _ => hq
  | move found step valid => exact hc.set_moved _ valid now
  | @delete key i found =>
    rw [marks, found]
    exact hc.eraseIdx i

theorem IsClean.after (hc : h.IsClean) (a : Attempt α) : (h.after a).IsClean := by
  unfold History.after
  split
  · rename_i store hstore
    exact hc.of_becomes (Attempt.becomes_of_result? hstore)
  · exact hc

theorem IsClean.run (hc : h.IsClean) (attempts : List (Attempt α)) : (h.run attempts).IsClean := by
  unfold History.run
  induction attempts generalizing h with
  | nil => exact hc
  | cons a rest ih => exact ih (hc.after a)

/-! ## The result -/

/-- Whatever is attempted from a store whose published profiles are valid: the published profiles are
valid, and so is every profile that was created or updated, so that its publication can only fail
because the workflow has no such step. -/
theorem published_and_saved_are_valid {s : Store α}
    (hs : ∀ p ∈ s.profiles, p.isPublished = true → p.problems = []) (attempts : List (Attempt α)) :
    let h := (start s).run attempts
    h.saved.length = h.store.profiles.length ∧
      (∀ p ∈ h.store.profiles, p.isPublished = true → p.problems = []) ∧
      ∀ i : Fin h.store.profiles.length, h.saved[(i : ℕ)]? = some true →
        (h.store.profiles.get i).problems = [] ∧
          ∀ (key : String) (now : Instant) (e : ChangeError), h.store.position? key = some i →
            h.store.move key .published now = .error e →
              e = .lifecycle (.invalidTransition (h.store.profiles.get i).name
                (h.store.profiles.get i).status .published) := by
  intro h
  have hc : h.IsClean := (isClean_start hs).run attempts
  refine ⟨hc.length, ?_, ?_⟩
  · intro p hp hpub
    obtain ⟨i, hi, rfl⟩ := List.mem_iff_getElem.mp hp
    exact hc.problems_get ⟨i, hi⟩ (.inl hpub)
  · intro i hmark
    have hvalid : (h.store.profiles.get i).problems = [] := hc.problems_get i (.inr hmark)
    refine ⟨hvalid, ?_⟩
    intro key now e hi herror
    rw [Store.move_of_position hi] at herror
    split at herror
    · cases herror
    · rename_i refusal hmove
      cases herror
      exact congrArg ChangeError.lifecycle (Profile.error_of_moveTo_published hvalid hmove)

end History

namespace Sample

/-- A published profile that is valid. -/
def live : Profile ℚ where
  id := "1"
  name := "Power"
  description := "Charged by the processor"
  status := .published
  priority := 1
  model := .simple
  rules := ⟨.and, [⟨.ofAttribute .kind, .equals, "vm"⟩], []⟩
  rates := [⟨"Power", .perCpu, 10, "monthly", ""⟩]
  shared := .empty
  created := none
  modified := none

/-- The same profile with a lower price, marked as a draft. -/
def cheaper : Profile ℚ :=
  { live with status := .draft, rates := [⟨"Power", .perCpu, 5, "monthly", ""⟩] }

/-- A time. -/
def noon : Instant := ⟨2024, 1, 1, 12, 0, 0, 0, by decide⟩

/-- An update of the published profile, and another profile from its creation to its publication,
which is tried too early once. -/
def edits : List (Attempt ℚ) :=
  [.update "power" cheaper, .create { cheaper with name := "Heat" }, .move "heat" .published,
    .move "heat" .inReview, .move "heat" .published].map fun change => ⟨change, "2", noon⟩

end Sample

theorem History.published_and_saved_are_valid_edits :
    let h := (History.start ⟨[Sample.live]⟩).run Sample.edits
    h.saved = [true, true] ∧ (∀ p ∈ h.store.profiles, p.isPublished = true) ∧
      ∀ p ∈ h.store.profiles, p.isPublished = true → p.problems = [] :=
  ⟨by decide +kernel, by decide +kernel,
    (History.published_and_saved_are_valid (by decide +kernel) Sample.edits).2.1⟩

end Chargeback
