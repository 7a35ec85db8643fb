import Chargeback.Report.Profiles
import Chargeback.Run.Basic
import Chargeback.Telemetry.Trace

/-!
# Runs on the store

The commands that list, validate and change the profiles of the store. A command that fails writes
nothing; one that changes the store writes it once, as a whole.
-/

namespace Chargeback.Workspace

/-- Lists the profiles, perhaps only those of a status. -/
def listProfiles (w : Workspace) (status : Option Status) : RunResult :=
  w.withStore fun store =>
    let selected := Report.Profiles.select status store.profiles
    .printed (w.render (Report.Profiles.lines selected store.profiles)
      (Report.Profiles.toJson selected))

/-- Shows the problems of some profiles, and fails if there are any. -/
def showProblems (w : Workspace) (profiles : List (Profile Float)) : RunResult :=
  let output := w.render (Report.Validation.lines profiles) (Report.Validation.toJson profiles)
  let invalid := Report.Validation.invalid profiles
  { RunResult.printed output with
    failure := if 0 < invalid then some (.invalid invalid profiles.length) else none }

/-- Shows the problems of a profile, or of all. -/
def validateProfiles (w : Workspace) (key : Option String) : RunResult :=
  w.withStore fun store =>
    match key with
    | none => w.showProblems store.profiles
    | some key =>
      match store.get key with
      | .ok p => w.showProblems [p]
      | .error e => .failed [] (.change (.store e))

/-- The result of a change that is refused. -/
def refused (w : Workspace) (e : ChangeError) : RunResult :=
  let events := match e with
    | .lifecycle e => Trace.rejection w.profiles e
    | .store _ => []
  .failed events (.change e)

/-- The result of a change after which the store is saved. Some events happen before the store is
written, and some only if that succeeds. -/
def saved (w : Workspace) (store : Store Float) (before after : List Event) (output : String) :
    RunResult :=
  if w.surroundings.canWrite w.profiles then
    { RunResult.printed output with
      events := before ++ after
      writes := [(w.profiles, store.text)] }
  else .failed before (.storeUnwritable w.profiles)

/-- Adds the profile that a file defines. -/
def createProfile (w : Workspace) (file : String) : RunResult :=
  w.withStore fun store =>
    match w.readDefinition file with
    | .error e => .failed [] e
    | .ok edited =>
      match store.create edited w.surroundings.freshId w.surroundings.now with
      | .error e => w.refused e
      | .ok (p, store) =>
        w.saved store [] [.created w.profiles p]
          (w.render
            [Report.success ("Created profile '" ++ p.name ++ "' (" ++ p.id ++ ") as " ++
              p.status.name),
             Report.info "Submit it for review before it can be published"]
            p.toJson)

/-- Gives a profile the content that a file defines. -/
def updateProfile (w : Workspace) (key file : String) : RunResult :=
  w.withStore fun store =>
    match store.position key with
    | .error e => w.refused (.store e)
    | .ok i =>
      match w.readDefinition file with
      | .error e => .failed [] e
      | .ok edited =>
        match store.updateAt i edited w.surroundings.now with
        | .error e => w.refused e
        | .ok (p, store) =>
          w.saved store [] [.updated w.profiles p]
            (w.render [Report.success ("Updated profile '" ++ p.name ++ "' (" ++ p.id ++ ")")]
              p.toJson)

/-- The lines about a profile with another status. -/
def movedLines (m : Moved Float) (target : Status) : List String :=
  Report.success ("Profile '" ++ m.after.name ++ "' moved from " ++ m.before.status.name ++
      " to " ++ m.after.status.name) ::
    if target = .published then
      [Report.info "The profile now takes part in cost allocation"]
    else []

/-- Moves a profile to another status. -/
def moveProfile (w : Workspace) (key : String) (target : Status) : RunResult :=
  w.withStore fun store =>
    match store.move key target w.surroundings.now with
    | .error e => w.refused e
    | .ok m =>
      w.saved m.store [.moved w.profiles m.after.name m.before.status m.after.status] []
        (w.render (movedLines m target) m.after.toJson)

/-- Takes a profile out. -/
def deleteProfile (w : Workspace) (key : String) : RunResult :=
  w.withStore fun store =>
    match store.delete key with
    | .error e => w.refused e
    | .ok (p, store) =>
      w.saved store [] []
        (Report.text [Report.success ("Deleted profile '" ++ p.name ++ "' (" ++ p.id ++ ")")])

/-- Runs a command of the store. -/
def runStoreCommand (w : Workspace) : StoreCommand → RunResult
  | .list status => w.listProfiles status
  | .validate key => w.validateProfiles key
  | .create file => w.createProfile file
  | .update key file => w.updateProfile key file
  | .move key target => w.moveProfile key target
  | .delete key => w.deleteProfile key

end Chargeback.Workspace
