import Chargeback.Proofs.Change
import Chargeback.Run.Storing

/-!
# What the commands of the store save

A command that changes the store is an attempt with what the run finds: the definition in a file, the
time and a new identifier. If the attempt succeeds, the command writes the store behind it as a
whole; else the command fails and writes nothing. So what holds along all sequences of attempts holds
along all sequences of commands.
-/

namespace Chargeback

/-- Whether a command only reports on the store. -/
def StoreCommand.isReport : StoreCommand → Bool
  | list _ => true
  | validate _ => true
  | _ => false

namespace Workspace

/-! ## Attempts of commands -/

/-- The change that a command asks for; there is none without a definition. -/
def change? (w : Workspace) : StoreCommand → Option (Change Float)
  | .list _ => none
  | .validate _ => none
  | .create file => (w.readDefinition file).toOption.map .create
  | .update key file => (w.readDefinition file).toOption.map (.update key)
  | .move key target => some (.move key target)
  | .delete key => some (.delete key)

/-- The attempt that a command makes. It takes a file of the store that can be written. -/
def attempt? (w : Workspace) (c : StoreCommand) : Option (Attempt Float) :=
  if w.surroundings.canWrite w.profiles then
    (w.change? c).map fun change => ⟨change, w.surroundings.freshId, w.surroundings.now⟩
  else none

/-- The store that a command saves. -/
def saves? (w : Workspace) (s : Store Float) (c : StoreCommand) : Option (Store Float) :=
  (w.attempt? c).bind fun a => a.result? s

/-- A result saves a store, if there is one: it succeeds and writes that store and nothing else. If
there is none, it fails and writes nothing. -/
def Commits (w : Workspace) (r : RunResult) : Option (Store Float) → Prop
  | some s => r.failure = none ∧ r.writes = [(w.profiles, s.text)]
  | none => r.failure ≠ none ∧ r.writes = []

variable {w : Workspace}

theorem commits_failed (events : List Event) (e : RunError) :
    w.Commits (.failed events e) none :=
  ⟨Option.some_ne_none e, rfl⟩

theorem commits_refused (e : ChangeError) : w.Commits (w.refused e) none :=
  commits_failed _ _

theorem commits_saved (s : Store Float) (before after : List Event) (output : String) :
    w.Commits (w.saved s before after output)
      (if w.surroundings.canWrite w.profiles then some s else none) := by
  rw [saved]
  split
  · exact ⟨rfl, rfl⟩
  · exact commits_failed _ _

/-- A command that asks for no change saves nothing. -/
theorem saves?_of_none {c : StoreCommand} (hc : w.change? c = none) (s : Store Float) :
    w.saves? s c = none := by
  rw [saves?, attempt?, hc]
  split
  · rfl
  · rfl

theorem saves?_of_some {c : StoreCommand} {change : Change Float} (hc : w.change? c = some change)
    (s : Store Float) :
    w.saves? s c =
      if w.surroundings.canWrite w.profiles then
        (s.apply w.surroundings.freshId w.surroundings.now change).toOption
      else none := by
  rw [saves?, attempt?, hc]
  split
  · rfl
  · rfl

/-- A change that is refused saves nothing. -/
theorem saves?_of_error {c : StoreCommand} {change : Change Float} {s : Store Float}
    {e : ChangeError} (hc : w.change? c = some change)
    (he : s.apply w.surroundings.freshId w.surroundings.now change = .error e) :
    w.saves? s c = none := by
  rw [saves?_of_some hc, he]
  exact ite_self none

/-- A change that succeeds is saved, if the file can be written. -/
theorem saves?_of_ok {c : StoreCommand} {change : Change Float} {s s' : Store Float}
    (hc : w.change? c = some change)
    (hs : s.apply w.surroundings.freshId w.surroundings.now change = .ok s') :
    w.saves? s c = if w.surroundings.canWrite w.profiles then some s' else none := by
  rw [saves?_of_some hc, hs]
  rfl

/-! ## Definitions -/

theorem toOption_eq_some {ε ι : Type} {x : Except ε ι} {a : ι} (h : x.toOption = some a) :
    x = .ok a := by
  cases x with
  | error e => cases h
  | ok b => exact congrArg Except.ok (Option.some.inj h)

theorem error_of_map {ε ι κ : Type} {x : Except ε ι} {f : ι → κ} {e : ε}
    (h : x.map f = .error e) : x = .error e := by
  cases x with
  | error refusal => exact congrArg Except.error (Except.error.inj h)
  | ok a => cases h

theorem definition_of_map {ι : Type} {file : String} {f : Profile Float → ι} {x : ι}
    (h : (w.readDefinition file).toOption.map f = some x) :
    ∃ edited, w.readDefinition file = .ok edited ∧ f edited = x := by
  obtain ⟨edited, hedited, hf⟩ := Option.map_eq_some_iff.mp h
  exact ⟨edited, toOption_eq_some hedited, hf⟩

/-! ## The commands -/

theorem commits_createProfile {s : Store Float} (hs : w.readStore = .ok s) (file : String) :
    w.Commits (w.createProfile file) (w.saves? s (.create file)) := by
  rw [createProfile, withStore, hs]
  cases hfile : w.readDefinition file with
  | error e =>
    rw [saves?_of_none (by rw [change?, hfile]; rfl)]
    exact commits_failed _ _
  | ok edited =>
    have hc : w.change? (.create file) = some (.create edited) := by rw [change?, hfile]; rfl
    cases hresult : s.create edited w.surroundings.freshId w.surroundings.now with
    | error e =>
      rw [saves?_of_error hc (by rw [Store.apply, hresult]; rfl)]
      simp only [hresult, commits_refused]
    | ok result =>
      rw [saves?_of_ok hc (by rw [Store.apply, hresult]; rfl)]
      simp only [hresult, commits_saved]

theorem commits_updateProfile {s : Store Float} (hs : w.readStore = .ok s) (key file : String) :
    w.Commits (w.updateProfile key file) (w.saves? s (.update key file)) := by
  rw [updateProfile, withStore, hs]
  cases hfile : w.readDefinition file with
  | error e =>
    rw [saves?_of_none (by rw [change?, hfile]; rfl)]
    cases hkey : s.position key with
    | error e => simp only [hkey, commits_refused]
    | ok i => simp only [hkey, commits_failed]
  | ok edited =>
    have hc : w.change? (.update key file) = some (.update key edited) := by
      rw [change?, hfile]; rfl
    cases hkey : s.position key with
    | error e =>
      rw [saves?_of_error hc (by rw [Store.apply, Store.update, hkey]; rfl)]
      simp only [hkey, commits_refused]
    | ok i =>
      have happly : s.apply w.surroundings.freshId w.surroundings.now (.update key edited) =
          (s.updateAt i edited w.surroundings.now).map Prod.snd := by
        rw [Store.apply, Store.update_of_position (Store.position?_of_position hkey)]
      cases hresult : s.updateAt i edited w.surroundings.now with
      | error e =>
        rw [saves?_of_error hc (by rw [happly, hresult]; rfl)]
        simp only [hkey, hresult, commits_refused]
      | ok result =>
        rw [saves?_of_ok hc (by rw [happly, hresult]; rfl)]
        simp only [hkey, hresult, commits_saved]

theorem commits_moveProfile {s : Store Float} (hs : w.readStore = .ok s) (key : String)
    (target : Status) :
    w.Commits (w.moveProfile key target) (w.saves? s (.move key target)) := by
  have hc : w.change? (.move key target) = some (.move key target) := rfl
  rw [moveProfile, withStore, hs]
  cases hresult : s.move key target w.surroundings.now with
  | error e =>
    rw [saves?_of_error hc (by rw [Store.apply, hresult]; rfl)]
    simp only [hresult, commits_refused]
  | ok moved =>
    rw [saves?_of_ok hc (by rw [Store.apply, hresult]; rfl)]
    simp only [hresult, commits_saved]

theorem commits_deleteProfile {s : Store Float} (hs : w.readStore = .ok s) (key : String) :
    w.Commits (w.deleteProfile key) (w.saves? s (.delete key)) := by
  have hc : w.change? (.delete key) = some (.delete key) := rfl
  rw [deleteProfile, withStore, hs]
  cases hresult : s.delete key with
  | error e =>
    rw [saves?_of_error hc (by rw [Store.apply, hresult]; rfl)]
    simp only [hresult, commits_refused]
  | ok result =>
    rw [saves?_of_ok hc (by rw [Store.apply, hresult]; rfl)]
    simp only [hresult, commits_saved]

/-- A command that is no report writes the store behind its attempt, or it fails. -/
theorem commits_runStoreCommand {s : Store Float} (hs : w.readStore = .ok s) {c : StoreCommand}
    (hc : c.isReport = false) : w.Commits (w.runStoreCommand c) (w.saves? s c) := by
  cases c with
  | list status => cases hc
  | validate key => cases hc
  | create file => exact commits_createProfile hs file
  | update key file => exact commits_updateProfile hs key file
  | move key target => exact commits_moveProfile hs key target
  | delete key => exact commits_deleteProfile hs key

/-- Without a store every command fails, and none writes anything. -/
theorem commits_of_unreadable {e : RunError} (hs : w.readStore = .error e) (c : StoreCommand) :
    w.Commits (w.runStoreCommand c) none := by
  cases c <;>
  · simp only [runStoreCommand, listProfiles, validateProfiles, createProfile, updateProfile,
      moveProfile, deleteProfile, withStore, hs]
    exact commits_failed [] e

/-- A report writes nothing, whether it succeeds or not. -/
theorem writes_of_isReport {c : StoreCommand} (hc : c.isReport = true) :
    (w.runStoreCommand c).writes = [] := by
  cases hs : w.readStore with
  | error e => exact (commits_of_unreadable hs c).2
  | ok s =>
    cases c with
    | list status => rw [runStoreCommand, listProfiles, withStore, hs]; rfl
    | validate key =>
      rw [runStoreCommand, validateProfiles, withStore, hs]
      cases key with
      | none => rfl
      | some key =>
        cases hp : s.get key with
        | error e => simp only [hp]; rfl
        | ok p => simp only [hp]; rfl
    | create file => cases hc
    | update key file => cases hc
    | move key target => cases hc
    | delete key => cases hc

theorem failure_refused (w : Workspace) (e : ChangeError) :
    (w.refused e).failure = some (.change e) := rfl

/-- A command whose change is refused fails for the reason of the change. -/
theorem failure_of_error {s : Store Float} (hs : w.readStore = .ok s) {c : StoreCommand}
    {change : Change Float} (hc : w.change? c = some change) {e : ChangeError}
    (he : s.apply w.surroundings.freshId w.surroundings.now change = .error e) :
    (w.runStoreCommand c).failure = some (.change e) := by
  cases c with
  | list status => cases hc
  | validate key => cases hc
  | create file =>
    obtain ⟨edited, hfile, rfl⟩ := definition_of_map hc
    rw [Store.apply] at he
    have hresult : s.create edited w.surroundings.freshId w.surroundings.now = .error e :=
      error_of_map he
    rw [runStoreCommand, createProfile, withStore, hs]
    simp only [hfile, hresult, failure_refused]
  | update key file =>
    obtain ⟨edited, hfile, rfl⟩ := definition_of_map hc
    rw [Store.apply] at he
    have hresult : s.update key edited w.surroundings.now = .error e := error_of_map he
    rw [runStoreCommand, updateProfile, withStore, hs]
    cases hkey : s.position key with
    | error refusal =>
      rw [Store.update, hkey] at hresult
      cases hresult
      simp only [hkey, failure_refused]
    | ok i =>
      rw [Store.update_of_position (Store.position?_of_position hkey)] at hresult
      simp only [hkey, hfile, hresult, failure_refused]
  | move key target =>
    obtain rfl := Option.some.inj hc
    rw [Store.apply] at he
    have hresult : s.move key target w.surroundings.now = .error e := error_of_map he
    rw [runStoreCommand, moveProfile, withStore, hs]
    simp only [hresult, failure_refused]
  | delete key =>
    obtain rfl := Option.some.inj hc
    rw [Store.apply] at he
    have hresult : s.delete key = .error e := error_of_map he
    rw [runStoreCommand, deleteProfile, withStore, hs]
    simp only [hresult, failure_refused]

/-- A command whose change is refused writes nothing. -/
theorem writes_of_error {s : Store Float} (hs : w.readStore = .ok s) {c : StoreCommand}
    {change : Change Float} (hc : w.change? c = some change) {e : ChangeError}
    (he : s.apply w.surroundings.freshId w.surroundings.now change = .error e) :
    (w.runStoreCommand c).writes = [] := by
  cases hreport : c.isReport with
  | true => exact writes_of_isReport hreport
  | false =>
    have hcommits := commits_runStoreCommand hs hreport
    rw [saves?_of_error hc he] at hcommits
    exact hcommits.2

end Workspace

end Chargeback
