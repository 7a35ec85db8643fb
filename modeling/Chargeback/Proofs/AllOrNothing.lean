import Mathlib
import Chargeback.Proofs.Saving
import Chargeback.Proofs.StoreText
import Chargeback.Run.Program

/-!
# Commands of the store are all or nothing

A run of a store command is compared with the file of the store before and behind it. A run that does
not exit with zero leaves every file as it was. One that exits with zero and is no report has changed
a single entry of the list that it found: it has put one profile at the end, or put one in the place
of the profile that the key addresses, or taken that one out. The file then holds the changed list: its
text is read as the documents of these profiles, in their order, and as a store of just these profiles
unless a rule tree is too high.
-/

namespace Chargeback

/-- The text of a file behind a run: what the run has written, or else what was there. -/
def Response.textBehind (r : Response) (s : Surroundings) (file : String) : Option String :=
  (r.writes.lookup file).or (s.fileText file)

namespace Workspace

/-- What a command that succeeds makes of the list of profiles. Every key is looked up in the list
that was read, and all entries but one are those of that list, in its order. -/
inductive Edits (w : Workspace) (s : Store Float) : StoreCommand → List (Profile Float) → Prop where
  | create {file : String} {edited : Profile Float} (defined : w.readDefinition file = .ok edited) :
      Edits w s (.create file)
        (s.profiles ++ [edited.drafted w.surroundings.freshId w.surroundings.now])
  | update {key file : String} {edited : Profile Float} {i : Fin s.profiles.length}
      (found : s.position? key = some i) (defined : w.readDefinition file = .ok edited) :
      Edits w s (.update key file)
        (s.profiles.set i ((s.profiles.get i).rewritten edited w.surroundings.now))
  | move {key : String} {target : Status} {i : Fin s.profiles.length}
      (found : s.position? key = some i) :
      Edits w s (.move key target)
        (s.profiles.set i ((s.profiles.get i).moved target w.surroundings.now))
  | delete {key : String} {i : Fin s.profiles.length} (found : s.position? key = some i) :
      Edits w s (.delete key) (s.profiles.eraseIdx i)

variable {w : Workspace} {s s' : Store Float}

/-- A command that saves a store has asked for a change that succeeds. -/
theorem becomes_of_saves? {c : StoreCommand} (h : w.saves? s c = some s') :
    ∃ change, w.change? c = some change ∧
      s.Becomes w.surroundings.freshId w.surroundings.now change s' := by
  cases hc : w.change? c with
  | none =>
    rw [saves?_of_none hc] at h
    cases h
  | some change =>
    rw [saves?_of_some hc] at h
    split at h
    · exact ⟨change, rfl, Store.becomes_of_apply (toOption_eq_some h)⟩
    · cases h

/-- The store that a command saves differs from the one that it has read in one entry. -/
theorem edits_of_saves? {c : StoreCommand} (h : w.saves? s c = some s') :
    w.Edits s c s'.profiles := by
  obtain ⟨change, hchange, hbecomes⟩ := becomes_of_saves? h
  cases c with
  | list status => cases hchange
  | validate key => cases hchange
  | create file =>
    obtain ⟨edited, hdefined, rfl⟩ := definition_of_map hchange
    cases hbecomes with
    | create valid free => exact .create hdefined
  | update key file =>
    obtain ⟨edited, hdefined, rfl⟩ := definition_of_map hchange
    cases hbecomes with
    | update found valid free => exact .update found hdefined
  | move key target =>
    obtain rfl := Option.some.inj hchange
    cases hbecomes with
    | move found step valid => exact .move found
  | delete key =>
    obtain rfl := Option.some.inj hchange
    cases hbecomes with
    | delete found => exact .delete found

/-- A command that is no report commits to one attempt to save a store. A run without a store saves
nothing, just as one whose attempt fails. -/
theorem exists_commits {c : StoreCommand} (hc : c.isReport = false) :
    ∃ store, w.Commits (w.runStoreCommand c) store ∧
      ∀ s', store = some s' → ∃ s, w.readStore = .ok s ∧ w.saves? s c = some s' := by
  cases hs : w.readStore with
  | error e => exact ⟨none, commits_of_unreadable hs c, fun s' h => by cases h⟩
  | ok s => exact ⟨w.saves? s c, commits_runStoreCommand hs hc, fun s' h => ⟨s, rfl, h⟩⟩

/-! ## What is written can be read -/

theorem isRecoverable_of_readStore (h : w.readStore = .ok s) : ∀ p ∈ s.profiles, p.IsRecoverable := by
  rw [readStore] at h
  split at h
  · cases h
  · split at h
    · rename_i hread
      cases h
      exact Store.isRecoverable_of_read? hread
    · cases h

theorem isRecoverable_of_readDefinition {file : String} {edited : Profile Float}
    (h : w.readDefinition file = .ok edited) : edited.IsRecoverable := by
  rw [readDefinition] at h
  split at h
  · cases h
  · split at h
    · rename_i hread
      cases h
      obtain ⟨document, hdocument, hprofile⟩ := Option.bind_eq_some_iff.mp hread
      exact Profile.isRecoverable_of_read? (Json.inRange_of_read? hdocument) hprofile
    · cases h

/-- Whatever a command writes has been read from a store or from a definition: of an old profile it
changes the status and the dates only, and a definition gets an identifier, a status and dates. -/
theorem Edits.isRecoverable {c : StoreCommand} {after : List (Profile Float)}
    (h : w.Edits s c after) (hs : ∀ p ∈ s.profiles, p.IsRecoverable) :
    ∀ p ∈ after, p.IsRecoverable := by
  cases h with
  | create defined =>
    obtain ⟨hpriority, hrules, hrates, hshared⟩ := isRecoverable_of_readDefinition defined
    intro p hp
    rcases List.mem_append.mp hp with hp | hp
    · exact hs p hp
    · rw [List.mem_singleton.mp hp]
      exact ⟨hpriority, hrules, hrates, hshared⟩
  | update found defined =>
    obtain ⟨hpriority, hrules, hrates, hshared⟩ := isRecoverable_of_readDefinition defined
    intro p hp
    rcases List.mem_or_eq_of_mem_set hp with hp | rfl
    · exact hs p hp
    · exact ⟨hpriority, hrules, hrates, hshared⟩
  | @move key target i found =>
    obtain ⟨hpriority, hrules, hrates, hshared⟩ := hs _ (List.get_mem s.profiles i)
    intro p hp
    rcases List.mem_or_eq_of_mem_set hp with hp | rfl
    · exact hs p hp
    · exact ⟨hpriority, hrules, hrates, hshared⟩
  | delete found => exact fun p hp => hs p (List.mem_of_mem_eraseIdx hp)

/-- The text that a command writes holds the list of profiles that it has made. -/
theorem Edits.holds_text {c : StoreCommand} {after : List (Profile Float)} (h : w.Edits s c after)
    (hs : w.readStore = .ok s) : Store.Holds (Store.text ⟨after⟩) after :=
  Store.holds_text (s := ⟨after⟩) (h.isRecoverable (isRecoverable_of_readStore hs))

/-! ## From results to files -/

section Response

variable {request : Request} {environment : List (String × String)} {surroundings : Surroundings}
  {r : RunResult}

/-- A command that writes nothing leaves all files as they were. -/
theorem textBehind_of_writes_nil (h : r.writes = []) (file : String) :
    (Program.respond request environment r).textBehind surroundings file =
      surroundings.fileText file := by
  rw [Response.textBehind, Program.respond, h]
  rfl

/-- A command that saves a store changes its file, and no other. -/
theorem textBehind_of_commits (h : w.Commits r (some s)) (file : String) :
    (Program.respond request environment r).textBehind surroundings file =
      if file = w.profiles then some s.text else surroundings.fileText file := by
  rw [Response.textBehind, Program.respond, h.2]
  by_cases hfile : file = w.profiles
  · simp [List.lookup, hfile]
  · simp [List.lookup, hfile, beq_eq_false_iff_ne.mpr hfile]

theorem exitStatus_eq_zero_iff_of_commits {store : Option (Store Float)} (h : w.Commits r store) :
    (Program.respond request environment r).exitStatus = 0 ↔ store.isSome = true := by
  cases store with
  | none =>
    obtain ⟨e, he⟩ := Option.ne_none_iff_exists'.mp h.1
    simp [Program.respond, he]
  | some s => simp [Program.respond, h.1]

end Response

/-! ## Runs -/

/-- The response to a command of the store, for a workspace. -/
theorem respond_all_or_nothing (w : Workspace) (c : StoreCommand) (request : Request)
    (environment : List (String × String)) :
    let response := Program.respond request environment (w.runStoreCommand c)
    ((response.exitStatus ≠ 0 ∨ c.isReport = true) →
      ∀ file, response.textBehind w.surroundings file = w.surroundings.fileText file) ∧
    (response.exitStatus = 0 → c.isReport = false →
      ∃ before after, w.readStore = .ok before ∧ w.Edits before c after ∧
        response.textBehind w.surroundings w.profiles = some (Store.text ⟨after⟩) ∧
        Store.Holds (Store.text ⟨after⟩) after ∧
        ∀ file, file ≠ w.profiles →
          response.textBehind w.surroundings file = w.surroundings.fileText file) := by
  intro response
  cases hreport : c.isReport with
  | true =>
    exact ⟨fun _ => textBehind_of_writes_nil (writes_of_isReport hreport), fun _ h => by cases h⟩
  | false =>
    obtain ⟨store, hcommits, hstore⟩ := exists_commits (w := w) hreport
    have hzero : response.exitStatus = 0 ↔ store.isSome = true :=
      exitStatus_eq_zero_iff_of_commits hcommits
    cases store with
    | none =>
      refine ⟨fun _ => textBehind_of_writes_nil hcommits.2, fun h => ?_⟩
      cases hzero.mp h
    | some s' =>
      obtain ⟨s, hs, hsaves⟩ := hstore s' rfl
      refine ⟨fun h => ?_, fun _ _ => ?_⟩
      · rcases h with hnonzero | h
        · exact absurd (hzero.mpr rfl) hnonzero
        · cases h
      · have hedits := edits_of_saves? hsaves
        refine ⟨s, s'.profiles, hs, hedits, ?_, hedits.holds_text hs, fun file hfile => ?_⟩
        · rw [textBehind_of_commits hcommits]
          exact if_pos rfl
        · rw [textBehind_of_commits hcommits]
          exact if_neg hfile

end Workspace

namespace Program

/-- A run of a store command that does not exit with zero leaves all files as they were, and so does
every report. Any other one that exits with zero has read a store, and has written in its place, and
nowhere else, a text that holds the same list of profiles with one entry added, replaced or taken
out. -/
theorem run_all_or_nothing {arguments : List String} {s : Surroundings} {request : Request}
    {c : StoreCommand} (hread : CommandLine.read arguments s.environment = .ok request)
    (hcommand : request.command = .store c) :
    let response := run arguments s
    ((response.exitStatus ≠ 0 ∨ c.isReport = true) →
      ∀ file, response.textBehind s file = s.fileText file) ∧
    (response.exitStatus = 0 → c.isReport = false →
      ∃ settings, Settings.load (settingsText s) s.environment = .ok settings ∧
        let w := Workspace.of request settings s
        ∃ before after, w.readStore = .ok before ∧ w.Edits before c after ∧
          response.textBehind s w.profiles = some (Store.text ⟨after⟩) ∧
          Store.Holds (Store.text ⟨after⟩) after ∧
          ∀ file, file ≠ w.profiles → response.textBehind s file = s.fileText file) := by
  intro response
  cases hsettings : Settings.load (settingsText s) s.environment with
  | error e =>
    have hresponse : response = .stopped 1 ["Error: " ++ e.message] := by
      simp only [response, run, hread, hsettings]
    rw [hresponse]
    exact ⟨fun _ _ => rfl, fun h => absurd h Nat.one_ne_zero⟩
  | ok settings =>
    have hresponse : response = respond request s.environment
        ((Workspace.of request settings s).runStoreCommand c) := by
      simp only [response, run, hread, hsettings, hcommand, Workspace.run]
    obtain ⟨hunchanged, hchanged⟩ := (Workspace.of request settings s).respond_all_or_nothing c
      request s.environment
    rw [hresponse]
    exact ⟨hunchanged, fun hzero hreport => ⟨settings, rfl, hchanged hzero hreport⟩⟩

end Program

namespace Sample

/-- The text of a store of two profiles. -/
def storeText : String :=
  "[\x7b\"id\": \"1\", \"name\": \"Power\"\x7d, \x7b\"id\": \"2\", \"name\": \"Heat\"\x7d]"

/-- A place with this store in a file. -/
def place : Surroundings where
  fileText file := if file = "store.json" then some storeText else none
  canWrite _ := true
  environment := []
  now := ⟨2024, 3, 1, 0, 0, 0, 0, by decide⟩
  freshId := "3"

/-- The request to take out a profile, named in letters of another case. -/
def removal : Request where
  resources := none
  profiles := some "store.json"
  format := .table
  currency := none
  verbose := false
  jsonEvents := false
  counters := false
  command := .store (.delete "HEAT")

/-- The command line of the request. -/
def removalArguments : List String := ["--profiles", "store.json", "profiles", "delete", "HEAT"]

end Sample

/-- The file then holds a store of the other profile alone. -/
theorem Program.run_all_or_nothing_removal :
    let response := run Sample.removalArguments Sample.place
    response.exitStatus = 0 ∧
      ∃ (w : Workspace) (before : Store Float) (after : List (Profile Float)),
        w.readStore = .ok before ∧ before.profiles.map Profile.name = ["Power", "Heat"] ∧
          w.Edits before (.delete "HEAT") after ∧ after.map Profile.name = ["Power"] ∧
          (response.textBehind Sample.place w.profiles).bind Store.read? = some ⟨after⟩ := by
  have hread : CommandLine.read Sample.removalArguments Sample.place.environment =
      .ok Sample.removal := by rfl
  have hzero : (run Sample.removalArguments Sample.place).exitStatus = 0 := by decide +kernel
  obtain ⟨settings, -, before, after, hbefore, hedits, htext, hholds, -⟩ :=
    (run_all_or_nothing hread rfl).2 hzero rfl
  -- The file of the store is named in the command line, whatever the settings are.
  have hstore : (Workspace.of Sample.removal .standard Sample.place).readStore = .ok before := hbefore
  have hparts : (Workspace.of Sample.removal .standard Sample.place).readStore.toOption.map (fun s =>
      (s.profiles.map fun p => (p.name, p.rules.height), (s.position? "HEAT").map Fin.val)) =
      some ([("Power", 1), ("Heat", 1)], some 1) := by decide +kernel
  rw [hstore] at hparts
  obtain ⟨hprofiles, hposition⟩ := Prod.mk.inj (Option.some.inj hparts)
  have hnames : before.profiles.map Profile.name = ["Power", "Heat"] := by
    have hfirst := congrArg (List.map Prod.fst) hprofiles
    rwa [List.map_map] at hfirst
  have hafter : after.map (fun p => (p.name, p.rules.height)) = [("Power", 1)] := by
    cases hedits with
    | @delete key i found =>
      rw [found] at hposition
      rw [← List.eraseIdx_map, hprofiles, Option.some.inj hposition]
      rfl
  have hlow : ∀ p ∈ after, p.rules.height ≤ RuleTree.heightLimit := by
    intro p hp
    have hmem := List.mem_map_of_mem (f := fun p => (p.name, p.rules.height)) hp
    rw [hafter, List.mem_singleton] at hmem
    rw [(Prod.mk.inj hmem).2]
    decide
  refine ⟨hzero, _, before, after, hbefore, hnames, hedits, ?_, ?_⟩
  · have hfirst := congrArg (List.map Prod.fst) hafter
    rwa [List.map_map] at hfirst
  · rw [htext]
    exact hholds.whole hlow

end Chargeback
