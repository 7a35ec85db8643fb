import Chargeback.Proofs.SettingKeys
import Chargeback.Run.Program

/-!
# Which layer a setting comes from

The environment counts for more than the file, and the file for more than what is usual, at the end of
every path by itself: whatever else a layer sets, it does not reset a setting that it does not name. A
run takes its two files from the options of the command line, then from two variables of the
environment, and only then from the settings; a variable that is set to nothing is refused.
-/

namespace Chargeback

open Json Setting

namespace Settings

/-! ## Files -/

/-- What is left of some paths behind a name that they start with. -/
def behind (name : String) (paths : List (List String)) : List (List String) :=
  paths.filterMap fun path => if path.head? = some name then some path.tail else none

mutual

/-- Whether all names in a document stand on some paths. -/
def follows (paths : List (List String)) : Json → Bool
  | .obj fields => followsFields paths fields
  | _ => true

/-- Whether all names of fields, and those behind them, stand on some paths. -/
def followsFields (paths : List (List String)) : List (String × Json) → Bool
  | [] => true
  | (name, value) :: rest =>
    !(behind name paths).isEmpty && follows (behind name paths) value && followsFields paths rest

end

/-- A document of a settings file that sets nothing but settings, and each to a fitting value. -/
structure FileFits (document : Json) : Prop where
  names : follows (Key.all.map Key.path) document = true
  values : ∀ k : Key, document.leadsTo (fun v => (k.kind.ofJson? v).isSome) k.path = true

theorem exists_of_mem_behind {name : String} {paths : List (List String)} {rest : List String}
    (h : rest ∈ behind name paths) : name :: rest ∈ paths := by
  obtain ⟨path, hpath, hrest⟩ := List.mem_filterMap.mp h
  split at hrest
  · rename_i hhead
    obtain ⟨tail, rfl⟩ := List.head?_eq_some_iff.mp hhead
    obtain rfl : tail = rest := Option.some.inj hrest
    exact hpath
  · cases hrest

theorem follows_of_mem {paths : List (List String)} {fields : List (String × Json)}
    (h : followsFields paths fields = true) {field : String × Json} (hfield : field ∈ fields) :
    (∃ rest, field.1 :: rest ∈ paths) ∧ follows (behind field.1 paths) field.2 = true := by
  induction fields with
  | nil => cases hfield
  | cons first fields ih =>
    obtain ⟨name, value⟩ := first
    rw [followsFields, Bool.and_eq_true, Bool.and_eq_true] at h
    rcases List.mem_cons.mp hfield with rfl | hfield
    · have hne : behind name paths ≠ [] := by simpa using h.1.1
      obtain ⟨rest, hrest⟩ := List.exists_mem_of_ne_nil _ hne
      exact ⟨⟨rest, exists_of_mem_behind hrest⟩, h.1.2⟩
    · exact ih h.2 hfield

theorem folded_of_follows {paths : List (List String)}
    (hpaths : ∀ path ∈ paths, ∀ name ∈ path, foldName name = name) {j : Json}
    (h : follows paths j = true) : j.Folded := by
  intro path
  induction path generalizing paths j with
  | nil =>
    intro fields hat field hfield
    obtain rfl : j = .obj fields := Option.some.inj hat
    rw [follows] at h
    obtain ⟨⟨rest, hrest⟩, -⟩ := follows_of_mem h hfield
    exact hpaths _ hrest _ List.mem_cons_self
  | cons name path ih =>
    intro inner hat
    obtain ⟨fields, value, rfl, hlookup, hvalue⟩ := exists_lookup_of_at? hat
    rw [follows] at h
    refine ih (fun p hp n hn => ?_)
      (follows_of_mem h (TextMap.mem_of_lookup_eq_some hlookup)).2 inner hvalue
    exact hpaths _ (exists_of_mem_behind hp) n (List.mem_cons_of_mem _ hn)

theorem leadsTo_at? {fits : Json → Bool} {path : List String} {j value : Json}
    (h : j.leadsTo fits path = true) (hat : at? path j = some value) : fits value = true := by
  induction path generalizing j with
  | nil =>
    obtain rfl : j = value := Option.some.inj hat
    exact h
  | cons name path ih =>
    obtain ⟨fields, inner, rfl, hlookup, hvalue⟩ := exists_lookup_of_at? hat
    rw [leadsTo, hlookup] at h
    exact ih h hvalue

/-! ## The environment -/

/-- Whether a variable of the environment names a setting. -/
def Key.isNamedBy (k : Key) (name : String) : Bool :=
  (variablePath? name).map readPath = some (k.path.map Step.field)

/-- The text that the environment sets a setting to. -/
def Key.text? (k : Key) (environment : List (String × String)) : Option String :=
  (environment.find? fun e => k.isNamedBy e.1).map Prod.snd

/-- An environment in which every variable of settings names a setting and has a fitting text, or
leads elsewhere, and no two of them name the same setting. -/
structure EnvironmentFits (environment : List (String × String)) : Prop where
  texts : ∀ e ∈ environment, ∀ path ∈ variablePath? e.1, ∀ k : Key,
    (k.isNamedBy e.1 = true ∧ (k.kind.ofText? e.2).isSome = true) ∨
      isApart (readPath path) k.path = true
  single : ∀ k : Key, environment.Pairwise fun a b =>
    ¬ (k.isNamedBy a.1 = true ∧ k.isNamedBy b.1 = true)

theorem entryAt?_environmentLayer (k : Key) (environment : List (String × String)) :
    entryAt? k.path (environmentLayer environment) =
      (k.text? environment).map Setting.ofText := by
  unfold entryAt? Key.text? Key.isNamedBy
  induction environment with
  | nil => rfl
  | cons e rest ih =>
    obtain ⟨name, text⟩ := e
    cases hpath : variablePath? name with
    | none =>
      have hlayer : environmentLayer ((name, text) :: rest) = environmentLayer rest :=
        List.filterMap_cons_none (by simp only [hpath, Option.map_none])
      rw [hlayer, ih, List.find?_cons]
      simp only [hpath, Option.map_none]
      rfl
    | some path =>
      have hlayer : environmentLayer ((name, text) :: rest) =
          (path, Setting.ofText text) :: environmentLayer rest :=
        List.filterMap_cons_some (by simp only [hpath, Option.map_some])
      rw [hlayer, List.find?_cons, List.find?_cons]
      simp only [hpath, Option.map_some, Option.some.injEq]
      by_cases hnamed : readPath path = k.path.map Step.field
      · rw [decide_eq_true hnamed]
        rfl
      · rw [decide_eq_false hnamed]
        exact ih

theorem at?_environmentLayer {environment : List (String × String)}
    (h : EnvironmentFits environment) (k : Key) {settings : Json} (hsettings : settings.Ordered) :
    at? k.path (addLayer settings (environmentLayer environment)) =
      ((k.text? environment).map Setting.ofText).or (at? k.path settings) := by
  rw [← entryAt?_environmentLayer]
  have hnamed {e : String × String} {path : String} (hpath : variablePath? e.1 = some path) :
      k.isNamedBy e.1 = true ↔ readPath path = k.path.map Step.field := by
    rw [Key.isNamedBy, hpath, decide_eq_true_eq, Option.map_some, Option.some.injEq]
  refine at?_addLayer k.foldName_of_mem_path ?_ ?_ hsettings
  · intro entry hentry
    obtain ⟨e, he, hlayer⟩ := List.mem_filterMap.mp hentry
    obtain ⟨path, hpath, rfl⟩ := Option.map_eq_some_iff.mp hlayer
    rcases h.texts e he path hpath k with ⟨hname, -⟩ | hapart
    · exact .inl ⟨(hnamed hpath).mp hname, isObject_ofText e.2⟩
    · exact .inr hapart
  · refine List.pairwise_filterMap.mpr ((h.single k).imp fun {a b} hab => ?_)
    rintro entry hentry entry' hentry' ⟨hleads, hleads'⟩
    obtain ⟨path, hpath, rfl⟩ := Option.map_eq_some_iff.mp hentry
    obtain ⟨path', hpath', rfl⟩ := Option.map_eq_some_iff.mp hentry'
    exact hab ⟨(hnamed hpath).mpr hleads, (hnamed hpath').mpr hleads'⟩

theorem isSome_ofText? {environment : List (String × String)} (h : EnvironmentFits environment)
    {k : Key} {text : String} (htext : k.text? environment = some text) :
    (k.kind.ofText? text).isSome = true := by
  obtain ⟨e, hfind, rfl⟩ := Option.map_eq_some_iff.mp htext
  have hnamed := List.find?_some hfind
  have hnamed : k.isNamedBy e.1 = true := hnamed
  obtain ⟨path, hpath, hsteps⟩ := Option.map_eq_some_iff.mp (of_decide_eq_true hnamed)
  rcases h.texts e (List.mem_of_find?_eq_some hfind) path hpath k with ⟨-, hfits⟩ | hapart
  · exact hfits
  · rw [hsteps, isApart_self k.foldName_of_mem_path] at hapart
    cases hapart

/-! ## The layers together -/

/-- The document of a settings file; without a file it is empty. -/
def document? : Option String → Option Json
  | none => some (.obj [])
  | some text => (fileLayer? text).map .obj

/-- The value that the environment or else a file sets a setting to. -/
def Key.given? (k : Key) (environment : List (String × String)) (document : Json) : Option Value :=
  ((k.text? environment).bind k.kind.ofText?).or ((at? k.path document).bind k.kind.ofJson?)

/-- The document of the usual settings. -/
def usual : Json := addLayer (.obj []) (fieldsOf (some standard.toJson))

theorem usual_eq : usual = .obj
    [("currency", .str "AUD"),
     ("engine", .obj
      [("allocation", .obj
        [("amortization_periods", .ofNat 12), ("weights", .obj
          [("cpu", .ofFloat standard.engine.allocation.weights.cpu),
           ("memory", .ofFloat standard.engine.allocation.weights.memory),
           ("storage", .ofFloat standard.engine.allocation.weights.storage),
           ("storage_divisor", .ofFloat standard.engine.allocation.weights.storageDivisor)])]),
       ("parallel_threshold", .ofNat 256)]),
     ("profiles_path", .str "profiles.json"), ("resources_path", .str "inventory.json")] := by
  rfl

theorem read?_ofFloat {x : Float} (h : x.isFinite = true) :
    Kind.number.read? (.ofFloat x) = some (.number x) := by
  rw [Json.ofFloat, if_pos h]
  rfl

theorem holds_usual (k : Key) : Holds usual k.path k.kind.read? (k.value standard) := by
  rw [usual_eq]
  cases k with
  | cpu => exact ⟨_, rfl, read?_ofFloat (by decide)⟩
  | memory => exact ⟨_, rfl, read?_ofFloat (by decide)⟩
  | storage => exact ⟨_, rfl, read?_ofFloat (by decide)⟩
  | storageDivisor => exact ⟨_, rfl, read?_ofFloat (by decide)⟩
  | _ => exact ⟨_, rfl, rfl⟩

theorem ordered_of_document? {file : Option String} {document : Json}
    (h : document? file = some document) : document.Ordered ∧ ∃ fields, document = .obj fields := by
  cases file with
  | none =>
    obtain rfl : Json.obj [] = document := Option.some.inj h
    exact ⟨ordered_nil, [], rfl⟩
  | some text =>
    obtain ⟨layer, hlayer, rfl⟩ := Option.map_eq_some_iff.mp h
    unfold fileLayer? at hlayer
    split at hlayer
    · rename_i fields hread
      refine ⟨?_, layer, rfl⟩
      have hordered := ordered_normalize (.obj fields)
      rw [Json.normalize] at hordered hlayer
      obtain rfl := Option.some.inj hlayer
      exact hordered
    · cases hlayer

theorem load_eq_ok {file : Option String} {fields : Setting.Layer}
    (h : document? file = some (.obj fields)) {environment : List (String × String)} {s : Settings}
    (hread : read? (addLayer (addLayer usual fields) (environmentLayer environment)) = some s) :
    load file environment = .ok s := by
  have hlayers (a b c : Setting.Layer) :
      Setting.ofLayers [a, b, c] = addLayer (addLayer (addLayer (.obj []) a) b) c := rfl
  have hnone (a c : Setting.Layer) : Setting.ofLayers [a, c] = Setting.ofLayers [a, [], c] := rfl
  unfold usual at hread
  cases file with
  | none =>
    obtain rfl : [] = fields := Json.obj.inj (Option.some.inj h)
    rw [load, ofLayers, hnone, hlayers, hread]
  | some text =>
    obtain ⟨layer, hlayer, heq⟩ := Option.map_eq_some_iff.mp h
    obtain rfl : layer = fields := Json.obj.inj heq
    rw [load, hlayer]
    show ofLayers [layer, environmentLayer environment] = _
    rw [ofLayers, hlayers, hread]

theorem ordered_usual : usual.Ordered :=
  ordered_addLayer ordered_nil _

/-- What a file leaves on top of the usual settings. -/
theorem at?_fileLayer {fields : List (String × Json)} (hordered : Ordered (.obj fields))
    (h : FileFits (.obj fields)) (k : Key) :
    at? k.path (addLayer usual fields) = (at? k.path (.obj fields)).or (at? k.path usual) := by
  have hpaths : ∀ path ∈ Key.all.map Key.path, ∀ name ∈ path,
      foldName name = name ∧ readPath name = [.field name] := by decide
  have hfolded := folded_of_follows (fun path hp name hn => (hpaths path hp name hn).1) h.names
  have hnames : ∀ field ∈ fields, readPath field.1 = [.field field.1] := by
    intro field hfield
    have hfollows := h.names
    rw [follows] at hfollows
    obtain ⟨⟨rest, hrest⟩, -⟩ := follows_of_mem hfollows hfield
    exact (hpaths _ hrest _ List.mem_cons_self).2
  obtain ⟨base, hbase⟩ : ∃ base, usual = .obj base := ⟨_, usual_eq⟩
  have hsome : ∀ j ∈ some usual, Ordered j := by
    intro j hj
    rw [← Option.some.inj hj]
    exact ordered_usual
  have hlay := at?_lay (fun j hj => Kind.isObject_eq_false_of_ofJson? hj) (h.values k) hordered
    hfolded hsome
  have hpath : ∃ name path, k.path = name :: path := by cases k <;> exact ⟨_, _, rfl⟩
  obtain ⟨name, path, hpath⟩ := hpath
  rw [hpath] at hlay ⊢
  rw [at?_cons_lay_obj, hbase] at hlay
  rw [hbase, addLayer_obj hnames]
  exact hlay

/-- At the end of every path stands what the environment sets there, or else what the file sets there,
or else what is usual. -/
theorem holds_layers {fields : List (String × Json)} (hordered : Ordered (.obj fields))
    (hfile : FileFits (.obj fields)) {environment : List (String × String)}
    (henvironment : EnvironmentFits environment) (k : Key) :
    Holds (addLayer (addLayer usual fields) (environmentLayer environment)) k.path k.kind.read?
      (((k.given? environment (.obj fields)).map Value.kept).getD (k.value standard)) := by
  have hmiddle : (addLayer usual fields).Ordered := ordered_addLayer ordered_usual fields
  have hat := at?_environmentLayer henvironment k hmiddle
  rw [at?_fileLayer hordered hfile] at hat
  unfold Holds Key.given?
  cases htext : k.text? environment with
  | some text =>
    have hfits := isSome_ofText? henvironment htext
    obtain ⟨value, hvalue⟩ := Option.isSome_iff_exists.mp hfits
    rw [htext] at hat
    refine ⟨Setting.ofText text, hat, ?_⟩
    rw [Option.bind_some, hvalue]
    exact Kind.read?_of_ofText? k.isUsual_kind hvalue
  | none =>
    rw [htext] at hat
    cases hvalue : at? k.path (.obj fields) with
    | some j =>
      have hfits := leadsTo_at? (hfile.values k) hvalue
      obtain ⟨value, hread⟩ := Option.isSome_iff_exists.mp hfits
      rw [hvalue] at hat
      refine ⟨j, hat, ?_⟩
      rw [Option.bind_none, Option.bind_some, hread]
      exact Kind.read?_of_ofJson? k.isUsual_kind hread
    | none =>
      obtain ⟨j, hj, hread⟩ := holds_usual k
      rw [hvalue] at hat
      exact ⟨j, hat.trans hj, hread⟩

/-- The loaded settings are what the three layers hold. -/
theorem exists_load_eq_ok {file : Option String} {document : Json}
    (hdocument : document? file = some document) (hfile : FileFits document)
    {environment : List (String × String)} (henvironment : EnvironmentFits environment) :
    ∃ s, load file environment = .ok s ∧ ∀ k : Key,
      k.value s = ((k.given? environment document).map Value.kept).getD (k.value standard) := by
  obtain ⟨hordered, fields, rfl⟩ := ordered_of_document? hdocument
  have hholds := holds_layers hordered hfile henvironment
  obtain ⟨s, hs⟩ := exists_settings fun k => (hholds k).imp fun _ h => h.2
  refine ⟨s, load_eq_ok hdocument ?_, hs⟩
  refine read?_of_forall_holds (ordered_addLayer (ordered_addLayer ordered_usual fields) _) fun k => ?_
  rw [hs]
  exact hholds k

end Settings

/-! ## Runs -/

namespace CommandLine

variable {found : Found} {environment : List (String × String)}

/-- Whether no option names a file, and a variable that might is set to nothing. -/
def IsBlanked (found : Found) (environment : List (String × String)) (option name : String) :
    Prop :=
  found.value? option = none ∧ environment.lookup name = some ""

theorem readFile_of_isBlanked {option name : String}
    (h : IsBlanked found environment option name) :
    readFile found environment option name = .error .misuse := by
  rw [readFile, h.1, h.2]
  rfl

theorem readFile_of_not_isBlanked {option name : String}
    (h : ¬ IsBlanked found environment option name) :
    readFile found environment option name =
      .ok ((found.value? option).or (environment.lookup name)) := by
  unfold readFile
  split
  · rename_i file _ hoption
    rw [hoption]
    rfl
  · rename_i file hoption hname
    have hne : file ≠ "" := by
      rintro rfl
      exact h ⟨hoption, hname⟩
    rw [if_neg hne, hoption, hname]
    rfl
  · rename_i hoption hname
    rw [hoption, hname]
    rfl

variable {arguments : List String} {name : String} {rest : List String} {command : Command}

/-- A command line is refused if a file is blanked. -/
theorem read_of_isBlanked (hscan : programGrammar.scan arguments = .ok found)
    (hcommand : found.command = some (name, rest)) (hread : readCommand name rest = .ok command)
    (h : IsBlanked found environment "resources" "VMC_RESOURCES" ∨
      IsBlanked found environment "profiles" "VMC_PROFILES") :
    read arguments environment = .error .misuse := by
  rw [read, hscan]
  simp only [bind, Except.bind, hcommand, required, hread]
  by_cases hresources : IsBlanked found environment "resources" "VMC_RESOURCES"
  · rw [readFile_of_isBlanked hresources]
  · rw [readFile_of_not_isBlanked hresources,
      readFile_of_isBlanked (h.resolve_left hresources)]

/-- A command line that blanks no file makes a request, which names a file if an option or a variable
does. -/
theorem exists_read_eq_ok (hscan : programGrammar.scan arguments = .ok found)
    (hcommand : found.command = some (name, rest)) (hread : readCommand name rest = .ok command)
    (h : ¬ (IsBlanked found environment "resources" "VMC_RESOURCES" ∨
      IsBlanked found environment "profiles" "VMC_PROFILES")) :
    ∃ request, read arguments environment = .ok request ∧ request.command = command ∧
      request.resources = (found.value? "resources").or (environment.lookup "VMC_RESOURCES") ∧
      request.profiles = (found.value? "profiles").or (environment.lookup "VMC_PROFILES") ∧
      request.currency = found.value? "currency" := by
  obtain ⟨hresources, hprofiles⟩ := not_or.mp h
  rw [read, hscan]
  simp only [bind, Except.bind, hcommand, required, hread]
  rw [readFile_of_not_isBlanked hresources, readFile_of_not_isBlanked hprofiles]
  exact ⟨_, rfl, rfl, rfl, rfl, rfl⟩

end CommandLine

/-- A setting is what the environment sets it to, or else what the file sets it to, or else what is
usual, each by itself. A run takes its files from the options, then from two variables of the
environment, and only then from the settings, and its currency from the option or the settings; it
does not start if one of these variables is set to nothing and there is no option. -/
theorem Program.settings_by_precedence {file : Option String} {document : Json}
    (hdocument : Settings.document? file = some document) (hfile : Settings.FileFits document)
    {environment : List (String × String)} (henvironment : Settings.EnvironmentFits environment) :
    ∃ settings, Settings.load file environment = .ok settings ∧
      (∀ k : Settings.Key, k.value settings =
        ((k.given? environment document).map Value.kept).getD (k.value .standard)) ∧
      ∀ (arguments : List String) (s : Surroundings) (found : CommandLine.Found) (name : String)
        (rest : List String) (command : Command), s.environment = environment →
        settingsText s = file → CommandLine.programGrammar.scan arguments = .ok found →
        found.command = some (name, rest) → CommandLine.readCommand name rest = .ok command →
        let blanked := CommandLine.IsBlanked found environment "resources" "VMC_RESOURCES" ∨
          CommandLine.IsBlanked found environment "profiles" "VMC_PROFILES"
        (blanked → run arguments s = .stopped 2 ["Usage: vmc [OPTIONS] <COMMAND>"]) ∧
        (¬ blanked → ∃ request : Request,
          let w := Workspace.of request settings s
          run arguments s = respond request environment (w.run command) ∧
          w.resources = ((found.value? "resources").or
            (environment.lookup "VMC_RESOURCES")).getD settings.resources ∧
          w.profiles = ((found.value? "profiles").or
            (environment.lookup "VMC_PROFILES")).getD settings.profiles ∧
          w.currency = (found.value? "currency").getD settings.currency ∧
          w.engine = settings.engine) := by
  obtain ⟨settings, hload, hvalues⟩ := Settings.exists_load_eq_ok hdocument hfile henvironment
  refine ⟨settings, hload, hvalues, ?_⟩
  rintro arguments s found name rest command rfl rfl hscan hcommand hread
  constructor
  · intro hblanked
    rw [run, CommandLine.read_of_isBlanked hscan hcommand hread hblanked]
  · intro hblanked
    obtain ⟨request, hrequest, rfl, hresources, hprofiles, hcurrency⟩ :=
      CommandLine.exists_read_eq_ok hscan hcommand hread hblanked
    refine ⟨request, ?_, ?_, ?_, ?_, rfl⟩
    · rw [run, hrequest]
      dsimp only
      rw [hload]
    · rw [← hresources]
      rfl
    · rw [← hprofiles]
      rfl
    · rw [← hcurrency]
      rfl

namespace Sample

/-- The text of a settings file with a currency and, among the options of pricing, a limit. -/
def settingsText : String :=
  "\x7b\"currency\": \"EUR\", \"engine\": \x7b\"parallel_threshold\": 64\x7d\x7d"

/-- Surroundings with some files and variables. -/
def surroundings (files environment : List (String × String)) : Surroundings where
  fileText := fun file => files.lookup file
  canWrite := fun _ => true
  environment := environment
  now := ⟨2024, 5, 1, 0, 0, 0, 0, by decide⟩
  freshId := "3"

/-- An environment that sets the currency and one option of pricing, and names an inventory. -/
def environment : List (String × String) :=
  [("HOME", "/home"), ("VMC_CURRENCY", "USD"),
   ("VMC_ENGINE__ALLOCATION__AMORTIZATION_PERIODS", "24"), ("VMC_RESOURCES", "fleet.json")]

end Sample

/-- What the document of that file holds, and that nothing else stands in it. -/
theorem Sample.exists_document :
    ∃ document, Settings.document? (some settingsText) = some document ∧
      Settings.FileFits document ∧
      (at? ["engine", "parallel_threshold"] document).bind (Json.natBelow? UInt64.size) =
        some 64 ∧
      at? ["profiles_path"] document = none := by
  have hfacts : (Settings.document? (some settingsText)).map (fun document =>
      (Settings.follows (Settings.Key.all.map Settings.Key.path) document,
        decide (∀ k : Settings.Key,
          document.leadsTo (fun v => (k.kind.ofJson? v).isSome) k.path = true),
        (at? ["engine", "parallel_threshold"] document).bind (Json.natBelow? UInt64.size),
        (at? ["profiles_path"] document).isNone)) = some (true, true, some 64, true) := by
    decide +kernel
  obtain ⟨document, hdocument, hparts⟩ := Option.map_eq_some_iff.mp hfacts
  obtain ⟨hnames, hrest⟩ := Prod.mk.inj hparts
  obtain ⟨hvalues, hrest⟩ := Prod.mk.inj hrest
  obtain ⟨hthreshold, hprofiles⟩ := Prod.mk.inj hrest
  exact ⟨document, hdocument, ⟨hnames, of_decide_eq_true hvalues⟩, hthreshold,
    Option.isNone_iff_eq_none.mp hprofiles⟩

/-- Among settings of all three layers each keeps its own, and the option counts for more than the
settings. -/
theorem Program.settings_by_precedence_mixed :
    let s := Sample.surroundings
      [("/home/.config/vmc/config.json", Sample.settingsText)] Sample.environment
    ∃ document settings, Settings.document? (settingsText s) = some document ∧
      Settings.FileFits document ∧ Settings.EnvironmentFits s.environment ∧
      Settings.load (settingsText s) s.environment = .ok settings ∧
      settings.currency = "USD" ∧ settings.profiles = "profiles.json" ∧
      settings.engine.parallelThreshold = 64 ∧ settings.engine.allocation.periods = 24 ∧
      ∃ request : Request,
        let w := Workspace.of request settings s
        run ["--currency", "NZD", "resources"] s =
          respond request s.environment (w.run (.resources none)) ∧
        w.resources = "fleet.json" ∧ w.profiles = "profiles.json" ∧ w.currency = "NZD" := by
  intro s
  obtain ⟨document, hdocument, hfile, hthreshold, hprofiles⟩ := Sample.exists_document
  have henvironment : Settings.EnvironmentFits s.environment :=
    ⟨by decide, by decide⟩
  obtain ⟨settings, hload, hvalues, hrun⟩ :=
    Program.settings_by_precedence hdocument hfile henvironment
  have hcurrency : settings.currency = "USD" := by
    have htext : Settings.Key.currency.text? s.environment = some "USD" := by decide
    have hvalue := hvalues .currency
    rw [Settings.Key.given?, htext] at hvalue
    exact Value.text.inj hvalue
  have hperiods : settings.engine.allocation.periods = 24 := by
    have htext : Settings.Key.periods.text? s.environment = some "24" := by decide
    have hvalue := hvalues .periods
    rw [Settings.Key.given?, htext] at hvalue
    exact Value.whole.inj hvalue
  have hlimit : settings.engine.parallelThreshold = 64 := by
    have htext : Settings.Key.threshold.text? s.environment = none := by decide
    have hvalue := hvalues .threshold
    obtain ⟨j, hj, hread⟩ := Option.bind_eq_some_iff.mp hthreshold
    have hfits : Settings.Key.threshold.kind.ofJson? j = some (.whole 64) := by
      show (Json.natBelow? UInt64.size j).map Value.whole = _
      rw [hread]
      rfl
    have hat : at? Settings.Key.threshold.path document = some j := hj
    rw [Settings.Key.given?, htext, hat, Option.bind_none, Option.none_or, Option.bind_some,
      hfits] at hvalue
    exact Value.whole.inj hvalue
  have hstore : settings.profiles = "profiles.json" := by
    have htext : Settings.Key.profiles.text? s.environment = none := by decide
    have hat : at? Settings.Key.profiles.path document = none := hprofiles
    have hvalue := hvalues .profiles
    rw [Settings.Key.given?, htext, hat] at hvalue
    exact Value.text.inj hvalue
  have hscan : CommandLine.programGrammar.scan ["--currency", "NZD", "resources"] =
      .ok ⟨[("currency", "NZD")], [], some ("resources", [])⟩ := by
    rfl
  obtain ⟨-, hstart⟩ := hrun ["--currency", "NZD", "resources"] s _ "resources" []
    (.resources none) rfl rfl hscan rfl rfl
  have hblanked : ¬ (CommandLine.IsBlanked ⟨[("currency", "NZD")], [], some ("resources", [])⟩
        s.environment "resources" "VMC_RESOURCES" ∨
      CommandLine.IsBlanked ⟨[("currency", "NZD")], [], some ("resources", [])⟩
        s.environment "profiles" "VMC_PROFILES") := by
    unfold CommandLine.IsBlanked
    decide
  obtain ⟨request, hresponse, hresources, hnamed, hoption, -⟩ := hstart hblanked
  exact ⟨document, settings, hdocument, hfile, henvironment, hload, hcurrency, hstore, hlimit,
    hperiods, request, hresponse, hresources, hnamed.trans hstore, hoption⟩

/-- A variable that is set to nothing does not leave the choice of the inventory to the settings, and a
whole number of 64 bits is not kept as it is given. -/
theorem Program.settings_not_by_precedence :
    let files := [("inventory.json", "[]"), ("profiles.json", "[]")]
    let s := Sample.surroundings files [("VMC_RESOURCES", "")]
    let named := (Settings.load (settingsText s) s.environment).toOption.map Settings.resources
    let text := "\x7b\"engine\": \x7b\"parallel_threshold\": 9223372036854775809\x7d\x7d"
    named = some "inventory.json" ∧
      (run ["--resources", "inventory.json", "resources"] s).exitStatus = 0 ∧
      (run ["resources"] s).exitStatus = 2 ∧
      (Settings.load (some text) []).toOption.map (fun s => s.engine.parallelThreshold) =
        some 9223372036854775808 := by
  decide +kernel

end Chargeback
