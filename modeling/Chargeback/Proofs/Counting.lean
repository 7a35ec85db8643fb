import Chargeback.Proofs.CounterText
import Chargeback.Proofs.DegradedItems
import Chargeback.Proofs.Matching
import Chargeback.Proofs.Names
import Chargeback.Proofs.Reconciliation
import Chargeback.Run.Program

/-!
# The counters agree with the totals and with the events

The counters and the totals by profile come from two passes over the same breakdowns. What a pass makes
of one breakdown depends on the profile that it names and on its degraded items alone. For each name the
counter and the totals take the same step there (`countFor`), so they run alongside each other from the
empty maps on. All other numbers are sums of what the breakdowns add, and so is the number of the
warnings, which the loops of pricing give. The numbers are reported as samples of the metrics, and what
the samples say is what was counted.
-/

namespace Chargeback

/-! ## What one breakdown adds -/

/-- Counts a breakdown for the profile of a name, if it names that profile. -/
def Breakdown.countFor {α : Type} (name : String) (count : Option ℕ) (b : Breakdown α) : Option ℕ :=
  if b.profile? = some name then some (count.getD 0 + 1) else count

theorem Breakdown.getD_countFor {α : Type} (name : String) (count : Option ℕ) (b : Breakdown α) :
    (b.countFor name count).getD 0 =
      count.getD 0 + if decide (b.profile? = some name) then 1 else 0 := by
  unfold countFor
  by_cases h : b.profile? = some name
  · simp [h]
  · simp [h]

/-- Counting for a name is counting the breakdowns that name it. -/
theorem Breakdown.getD_foldl_countFor {α : Type} (name : String) (l : List (Breakdown α)) :
    (l.foldl (fun count b => b.countFor name count) none).getD 0 =
      l.countP fun b => b.profile? = some name := by
  rw [foldl_gain (f := fun count => Option.getD count 0) (getD_countFor name), sum_map_ite_one]
  exact Nat.zero_add _

/-- Counting one more in the entry of the named profile is counting for every name. -/
theorem Breakdown.map_get?_alter {α β : Type} {b : Breakdown α} {other : String}
    (hprofile : b.profile? = some other) (name : String) (m : TextMap β) (worth : β → ℕ)
    {f : Option β → β} (hf : ∀ entry, worth (f entry) = (entry.map worth).getD 0 + 1) :
    ((m.alter other f).get? name).map worth = b.countFor name ((m.get? name).map worth) := by
  unfold countFor
  rw [TextMap.get?_alter, hprofile]
  by_cases h : name = other
  · subst h
    rw [if_pos rfl, if_pos rfl, Option.map_some, hf]
  · rw [if_neg h, if_neg fun heq => h (Option.some.inj heq).symm]

namespace Counters

variable {α : Type}

theorem get?_matched_record (name : String) (c : Counters) (b : Breakdown α) :
    (c.record b).matched.get? name = b.countFor name (c.matched.get? name) := by
  cases hprofile : b.profile? with
  | none => simp [record, Breakdown.countFor, hprofile]
  | some other =>
    have hf (entry : Option ℕ) : id (entry.getD 0 + 1) = (entry.map id).getD 0 + 1 := by
      rw [Option.map_id_fun]
      rfl
    have hcount := Breakdown.map_get?_alter hprofile name c.matched id hf
    rw [Option.map_id_fun] at hcount
    unfold record
    rw [hprofile]
    exact hcount

theorem total_matched_record (c : Counters) (b : Breakdown α) :
    (c.record b).matched.total id = c.matched.total id + if b.profile?.isSome then 1 else 0 := by
  unfold record
  cases b.profile? with
  | none => rfl
  | some name =>
    refine TextMap.total_alter ?_
    cases c.matched.get? name <;> rfl

theorem uncosted_record (c : Counters) (b : Breakdown α) :
    (c.record b).uncosted = c.uncosted + if b.profile?.isNone then 1 else 0 := by
  unfold record
  cases b.profile? with
  | none => rfl
  | some name => rfl

/-! ## The counters of a run -/

theorem get?_matched_of (name : String) (l : List (Breakdown α)) :
    (of l).matched.get? name = l.foldl (fun count b => b.countFor name count) none :=
  (List.foldl_hom (fun c : Counters => c.matched.get? name)
    fun c b => (get?_matched_record name c b).symm).symm

theorem total_matched_of (l : List (Breakdown α)) :
    (of l).matched.total id = l.countP fun b => b.profile?.isSome := by
  unfold of
  rw [foldl_gain (f := fun c : Counters => c.matched.total id) total_matched_record,
    sum_map_ite_one]
  exact Nat.zero_add _

theorem evaluated_of (l : List (Breakdown α)) : (of l).evaluated = l.length := by
  have hstep (c : Counters) (b : Breakdown α) : (c.record b).evaluated = c.evaluated + 1 := rfl
  unfold of
  rw [foldl_gain hstep, List.map_const', List.sum_replicate]
  simp [zero]

theorem uncosted_of (l : List (Breakdown α)) :
    (of l).uncosted = l.countP fun b => b.profile?.isNone := by
  unfold of
  rw [foldl_gain uncosted_record, sum_map_ite_one]
  exact Nat.zero_add _

theorem degraded_of (l : List (Breakdown α)) :
    (of l).degraded = (l.map Breakdown.degradedItems).sum := by
  have hstep (c : Counters) (b : Breakdown α) :
      (c.record b).degraded = c.degraded + b.degradedItems := rfl
  unfold of
  rw [foldl_gain hstep]
  exact Nat.zero_add _

/-- A breakdown counts as one without a profile or for the profile that it names. -/
theorem evaluated_eq_add (l : List (Breakdown α)) :
    (of l).evaluated = (of l).uncosted + (of l).matched.total id := by
  rw [evaluated_of, uncosted_of, total_matched_of, Nat.add_comm,
    ← countP_add_not fun b : Breakdown α => b.profile?.isSome]
  simp only [Option.not_isSome]

end Counters

namespace Totals

variable {α : Type} [Scalar α]

theorem resources_addToProfile (name : String) (m : TextMap (ProfileTotals α)) (b : Breakdown α) :
    ((addToProfile m b).get? name).map ProfileTotals.resources =
      b.countFor name ((m.get? name).map ProfileTotals.resources) := by
  unfold addToProfile
  cases hprofile : b.profile? with
  | none => simp [Breakdown.countFor, hprofile]
  | some other =>
    refine Breakdown.map_get?_alter hprofile name m ProfileTotals.resources fun entry => ?_
    cases entry <;> rfl

theorem resources_byProfile (name : String) (inventory : List (Resource α))
    (l : List (Breakdown α)) :
    ((of inventory l).byProfile.get? name).map ProfileTotals.resources =
      l.foldl (fun count b => b.countFor name count) none :=
  (List.foldl_hom
    (fun m : TextMap (ProfileTotals α) => (m.get? name).map ProfileTotals.resources)
    fun m b => (resources_addToProfile name m b).symm).symm

end Totals

/-! ## The events of reading -/

/-- Reading an inventory has nothing to say but that tags are ignored. -/
theorem Inventory.tagsIgnored_of_mem_readRows {file : String} {header : List String} {number : ℕ}
    {rows : List (List String)} {e : Event} (he : e ∈ (readRows file header number rows).events) :
    ∃ id, e = .tagsIgnored id := by
  induction rows generalizing number with
  | nil => cases he
  | cons cells rest ih =>
    unfold readRows at he
    split at he
    · cases he
    · rename_i row r _
      rcases List.mem_append.mp he with he | he
      · unfold rowEvents at he
        split at he
        · cases he
        · exact ⟨r.id, List.mem_singleton.mp he⟩
      · exact ih he

theorem Inventory.tagsIgnored_of_mem_read {file : String} {text : Option String} {e : Event}
    (he : e ∈ (read file text).events) : ∃ id, e = .tagsIgnored id := by
  unfold read at he
  split at he
  · unfold readTable at he
    split at he
    · cases he
    · exact tagsIgnored_of_mem_readRows he
  · cases he
  · cases he
  · cases he

/-! ## Runs -/

/-- Whether a command prices the whole inventory. -/
def Command.prices : Command → Bool
  | allocations .. | totals _ | write _ => true
  | _ => false

/-- What a command tells behind the events of pricing: only the totals have a say of their own. -/
def Command.closing (file : String) (t : Totals Float) : Command → List Event
  | totals _ => Trace.totals file t
  | _ => []

namespace Workspace

variable {w : Workspace} {inventory : List (Resource Float)} {store : Store Float}

/-- What a run reads of the inventory. -/
def reading (w : Workspace) : Inventory.Reading :=
  Inventory.read w.resources (w.surroundings.fileText w.resources)

theorem withInventory_withStore (hinventory : w.reading.result = .ok inventory)
    (hstore : w.readStore = .ok store) (f : List (Resource Float) → Store Float → RunResult) :
    (w.withInventory fun inventory => w.withStore (f inventory)) =
      (f inventory store).after w.reading.events := by
  unfold withInventory withStore
  unfold reading at hinventory ⊢
  simp only [hinventory, hstore]

/-- A run that prices the inventory counts the breakdowns. It tells about reading first and about
pricing next. -/
theorem run_of_prices (hinventory : w.reading.result = .ok inventory)
    (hstore : w.readStore = .ok store) {c : Command} (hc : c.prices = true) :
    let breakdowns := (w.engine.portfolio store.profiles inventory).1
    let totals := (w.engine.portfolio store.profiles inventory).2
    (w.run c).counters = .of breakdowns ∧
      (w.run c).events = w.reading.events ++
        (Trace.pricingAll w.resources w.engine store.profiles inventory breakdowns ++
          c.closing w.resources totals) := by
  intro breakdowns totals
  cases c with
  | allocations search uncostedOnly =>
    rw [run, showAllocations, withInventory_withStore hinventory hstore]
    refine ⟨rfl, ?_⟩
    show _ = w.reading.events ++ (_ ++ [])
    rw [List.append_nil]
    rfl
  | explain key => cases hc
  | totals top =>
    rw [run, showTotals, withInventory_withStore hinventory hstore]
    exact ⟨rfl, rfl⟩
  | write file =>
    have hclosing (events : List Event) (t : Totals Float) :
        events ++ (Command.write file).closing w.resources t = events := List.append_nil _
    rw [run, writeTable, withInventory_withStore hinventory hstore, hclosing]
    cases file with
    | none => exact ⟨rfl, rfl⟩
    | some file =>
      dsimp only
      split
      · exact ⟨rfl, rfl⟩
      · exact ⟨rfl, rfl⟩
  | store command => cases hc
  | resources search => cases hc

end Workspace

/-- The warnings of a run that prices the inventory all come from pricing. -/
theorem Trace.countP_run (file : String) (o : EngineOptions Float) (profiles : List (Profile Float))
    (inventory : List (Resource Float)) (breakdowns : List (Breakdown Float)) (text : Option String)
    (t : Totals Float) (c : Command) :
    ((Inventory.read file text).events ++ (pricingAll file o profiles inventory breakdowns ++
      c.closing file t)).countP Event.isDegradation =
        ((o.priceAll profiles inventory).map Breakdown.degradedItems).sum := by
  have hreading : (Inventory.read file text).events.countP Event.isDegradation = 0 := by
    rw [List.countP_eq_zero]
    intro e he
    obtain ⟨id, rfl⟩ := Inventory.tagsIgnored_of_mem_read he
    exact Bool.false_ne_true
  have hclosing : (c.closing file t).countP Event.isDegradation = 0 := by
    cases c with
    | totals top => exact countP_totals file t
    | _ => rfl
  rw [List.countP_append, List.countP_append, hreading, hclosing, countP_pricingAll, Nat.zero_add,
    Nat.add_zero]

/-! ## Winners by name -/

/-- Where no two profiles have the same name, the breakdowns that name one are those of the resources
that it wins. -/
theorem EngineOptions.countP_winner {α : Type} [Scalar α] (o : EngineOptions α)
    {profiles : List (Profile α)} (hnames : profiles.Pairwise fun p q => p.name ≠ q.name)
    (inventory : List (Resource α)) (i : Fin profiles.length) :
    ((o.priceAll profiles inventory).countP fun b => b.profile? = some (profiles.get i).name) =
      inventory.countP fun r => decide (Profile.Wins r profiles i) := by
  rw [priceAll_eq_map, List.countP_map]
  refine List.countP_congr fun r _ => ?_
  simp only [Function.comp_apply, decide_eq_true_eq]
  rw [profile?_price, Option.map_eq_some_iff]
  constructor
  · rintro ⟨p, hp, hname⟩
    obtain ⟨j, hwins, rfl⟩ := Profile.match?_eq_some_iff.mp hp
    by_cases hij : j = i
    · exact hij ▸ hwins
    · exact absurd hname (Store.pairwise_get_of_ne Ne.symm hnames hij)
  · intro hwins
    exact ⟨profiles.get i, hwins.match?_eq, rfl⟩

/-! ## One run -/

/-- A run that prices the inventory has counted every resource, and reports it under the names of the
metrics. For every name of a profile the count is the number of resources that the totals have for that
name, and there is none where the totals have none. The resources without a profile are counted apart,
so that all counts add up to the inventory. The degraded items are those of all breakdowns, and each has
had its event. If no two profiles of the store have the same name, then a profile has as many resources
in the totals as it wins. -/
theorem Workspace.counters_agree_with_report {w : Workspace} {c : Command}
    {inventory : List (Resource Float)} {store : Store Float}
    (hinventory : w.reading.result = .ok inventory) (hstore : w.readStore = .ok store)
    (hc : c.prices = true) :
    let breakdowns := (w.engine.portfolio store.profiles inventory).1
    let byProfile := (w.engine.portfolio store.profiles inventory).2.byProfile
    let counters := (w.run c).counters
    let reported := Counters.reported counters.lines
    reported "vmcost_resources_evaluated_total" none = [inventory.length] ∧
      (∀ name, reported "vmcost_profile_matches_total" (some name) =
        ((byProfile.get? name).map ProfileTotals.resources).toList) ∧
      reported "vmcost_resources_uncosted_total" none =
        [breakdowns.countP fun b => b.profile?.isNone] ∧
      reported "vmcost_degraded_line_items_total" none =
        [(breakdowns.flatMap Breakdown.items).countP LineItem.degraded] ∧
      counters.evaluated = inventory.length ∧
      (∀ name, counters.matched.get? name =
        (byProfile.get? name).map ProfileTotals.resources) ∧
      counters.uncosted = breakdowns.countP (fun b => b.profile?.isNone) ∧
      counters.evaluated = counters.uncosted + counters.matched.total id ∧
      counters.degraded = (breakdowns.flatMap Breakdown.items).countP LineItem.degraded ∧
      (w.run c).events.countP (fun e => e.name? = some "line_item_degraded") =
        counters.degraded ∧
      (store.profiles.Pairwise (fun p q => p.name ≠ q.name) → ∀ i : Fin store.profiles.length,
        ((byProfile.get? (store.profiles.get i).name).map ProfileTotals.resources).getD 0 =
          inventory.countP fun r => decide (Profile.Wins r store.profiles i)) := by
  intro breakdowns byProfile counters reported
  obtain ⟨hcounters, hevents⟩ := run_of_prices hinventory hstore hc
  have hof : counters = .of breakdowns := hcounters
  have hlength : breakdowns.length = inventory.length :=
    w.engine.length_priceAll store.profiles inventory
  have hsum : counters.degraded = (breakdowns.map Breakdown.degradedItems).sum := by
    rw [hof, Counters.degraded_of]
  have hevaluated : counters.evaluated = inventory.length := by
    rw [hof, Counters.evaluated_of, hlength]
  have hmatched (name : String) :
      counters.matched.get? name = (byProfile.get? name).map ProfileTotals.resources := by
    rw [hof, Counters.get?_matched_of]
    exact (Totals.resources_byProfile name inventory breakdowns).symm
  have huncosted : counters.uncosted = breakdowns.countP fun b => b.profile?.isNone := by
    rw [hof, Counters.uncosted_of]
  have hdegraded :
      counters.degraded = (breakdowns.flatMap Breakdown.items).countP LineItem.degraded := by
    rw [hsum, List.countP_flatMap]
    rfl
  refine ⟨?_, fun name => ?_, ?_, ?_, hevaluated, hmatched, huncosted, ?_, hdegraded, ?_, ?_⟩
  · rw [← hevaluated]
    exact counters.reported_evaluated
  · rw [← hmatched]
    exact counters.reported_profile name
  · rw [← huncosted]
    exact counters.reported_uncosted
  · rw [← hdegraded]
    exact counters.reported_degraded
  · rw [hof, Counters.evaluated_eq_add]
  · rw [hsum, Event.decide_name?_eq_degraded, hevents]
    exact Trace.countP_run _ w.engine store.profiles inventory breakdowns _ _ c
  · intro hnames i
    have hcount := Breakdown.getD_foldl_countFor (store.profiles.get i).name breakdowns
    rw [← Totals.resources_byProfile _ inventory] at hcount
    exact hcount.trans (w.engine.countP_winner hnames inventory i)

namespace Sample

/-- The text of an inventory of two resources. -/
def pairText : String :=
  "[\x7b\"id\": \"1\", \"name\": \"web\"\x7d, \x7b\"id\": \"2\", \"name\": \"db\"\x7d]"

/-- The text of a store of a draft and a published profile, which prices the first of them and has a
rate without a basis. -/
def vagueText : String :=
  "[\x7b\"name\": \"Heat\"\x7d, \x7b\"name\": \"Power\", \"status\": \"published\", " ++
    "\"rules\": \x7b\"conditions\": [\x7b\"field\": \"name\", \"operator\": \"equals\", " ++
    "\"value\": \"web\"\x7d]\x7d, \"costComponents\": [\x7b\"name\": \"Hum\"\x7d]\x7d]"

/-- A workspace with an inventory and a store. -/
def workspace (inventoryText storeText : String) : Workspace where
  resources := "inventory.json"
  profiles := "store.json"
  currency := "A$"
  engine := .standard
  format := .table
  surroundings :=
    { fileText := fun file =>
        [("inventory.json", inventoryText), ("store.json", storeText)].lookup file
      canWrite := fun _ => true
      environment := []
      now := ⟨2024, 4, 1, 0, 0, 0, 0, by decide⟩
      freshId := "3" }

end Sample

theorem exists_ok_of_map {ε ι κ : Type} {x : Except ε ι} {f : ι → κ} {b : κ}
    (h : x.toOption.map f = some b) : ∃ a, x = .ok a ∧ f a = b := by
  obtain ⟨a, ha, hf⟩ := Option.map_eq_some_iff.mp h
  exact ⟨a, Workspace.toOption_eq_some ha, hf⟩

theorem Workspace.counters_agree_with_report_vague :
    let w := Sample.workspace Sample.pairText Sample.vagueText
    ∃ (inventory : List (Resource Float)) (store : Store Float),
      w.reading.result = .ok inventory ∧ w.readStore = .ok store ∧
      (Command.totals 5).prices = true ∧
      store.profiles.Pairwise (fun p q => p.name ≠ q.name) ∧
      inventory.length = 2 ∧ (w.run (.totals 5)).counters.degraded = 1 ∧
      (w.run (.totals 5)).events.countP (fun e => e.name? = some "line_item_degraded") = 1 ∧
      Counters.reported (w.run (.totals 5)).counters.lines "vmcost_resources_evaluated_total" none =
        [2] ∧
      Counters.reported (w.run (.totals 5)).counters.lines "vmcost_profile_matches_total"
        (some "Power") = [1] ∧
      ∃ i : Fin store.profiles.length, (store.profiles.get i).name = "Power" ∧
        inventory.countP (fun r => decide (Profile.Wins r store.profiles i)) = 1 := by
  intro w
  have htwo : w.reading.result.toOption.map List.length = some 2 := by decide +kernel
  obtain ⟨inventory, hinventory, hlength⟩ := exists_ok_of_map htwo
  have htexts : w.readStore.toOption.map (fun s => s.profiles.map Profile.name) =
      some ["Heat", "Power"] := by decide +kernel
  obtain ⟨store, hstore, hnames⟩ := exists_ok_of_map htexts
  obtain ⟨hdegraded, hpower⟩ : (w.run (.totals 5)).counters.degraded = 1 ∧
      (w.run (.totals 5)).counters.matched.get? "Power" = some 1 := by decide +kernel
  obtain ⟨hevaluated, hprofile, -, -, -, hmatched, -, -, -, hevents, hwins⟩ :=
    Workspace.counters_agree_with_report hinventory hstore (c := .totals 5) rfl
  have hpairwise : store.profiles.Pairwise fun p q => p.name ≠ q.name := by
    rw [← List.pairwise_map (f := Profile.name) (R := (· ≠ ·)), hnames]
    decide
  obtain ⟨i, hname⟩ : ∃ i : Fin store.profiles.length, (store.profiles.get i).name = "Power" := by
    have hmem : "Power" ∈ store.profiles.map Profile.name := by
      rw [hnames]
      decide
    obtain ⟨p, hp, hname⟩ := List.mem_map.mp hmem
    obtain ⟨i, rfl⟩ := List.get_of_mem hp
    exact ⟨i, hname⟩
  have hwon : inventory.countP (fun r => decide (Profile.Wins r store.profiles i)) = 1 := by
    rw [← hwins hpairwise, hname, ← hmatched, hpower]
    rfl
  rw [hlength] at hevaluated
  have hreported := hprofile "Power"
  rw [← hmatched, hpower] at hreported
  exact ⟨inventory, store, hinventory, hstore, rfl, hpairwise, hlength, hdegraded,
    hevents.trans hdegraded, hevaluated, hreported, i, hname, hwon⟩

end Chargeback
