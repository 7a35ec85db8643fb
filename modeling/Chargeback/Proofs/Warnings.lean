import Chargeback.Proofs.Counting
import Chargeback.Proofs.ReportLines

/-!
# What reports say about resources without a profile

Both reports for people can end with a warning about resources that no profile prices, and an event
says that there are no others. All three look at the amounts: a resource counts if it costs nothing.
A resource without a profile costs nothing, so it counts, but so does a resource whose profile charges
nothing, such as a rate per CPU for a machine that has none. The number in the warning is that of both
kinds together. To read it off the lines of a report, warnings are told from all other lines by the mark
that they start with.
-/

namespace Chargeback

/-! ## Lines that warn -/

namespace Report

/-- Some lines warn of so many resources, and of no other number; there is no warning of none. -/
def WarnsOf (lines : List String) (count : ℕ) : Prop :=
  ∀ n, uncostedWarning n ∈ lines ↔ n = count ∧ 0 < count

theorem starts_uncostedWarning (n : ℕ) : starts "⚠" (uncostedWarning n) = true :=
  starts_append (by decide) _

theorem uncostedWarning_inj {m n : ℕ} : uncostedWarning m = uncostedWarning n ↔ m = n := by
  constructor
  · intro h
    have hlist := congrArg String.toList h
    simp only [uncostedWarning, warning, String.toList_append] at hlist
    have htext := List.append_cancel_right (List.append_cancel_left hlist)
    exact Number.natText_injective (String.toList_inj.mp htext)
  · rintro rfl
    rfl

/-- A warning behind lines that do not warn. -/
theorem warnsOf_append {front gap : List String} (hfront : Lacks "⚠" front) (hgap : Lacks "⚠" gap)
    (count : ℕ) :
    WarnsOf (front ++ if 0 < count then gap ++ [uncostedWarning count] else []) count := by
  intro n
  have hnotFront := hfront.notMem (starts_uncostedWarning n)
  have hnotGap := hgap.notMem (starts_uncostedWarning n)
  split
  · rename_i hpos
    simp [hnotFront, hnotGap, uncostedWarning_inj, hpos]
  · rename_i hzero
    simp [hnotFront, hzero]

namespace Portfolio

theorem warnsOf_lines (currency : String) (p : Portfolio) :
    WarnsOf (p.lines currency) p.totals.uncosted := by
  have hoverview : Lacks "⚠" p.overview := by
    unfold overview heading
    simp (disch := decide) only [lacks_append, lacks_cons, lacks_nil, and_true, String.append_assoc,
      starts_append_of_areApart]
    decide
  have hcosts : Lacks "⚠" (costs currency p.totals) := by
    unfold costs
    simp (disch := decide) only [lacks_append, lacks_cons, lacks_nil, and_true, String.append_assoc,
      starts_append_of_areApart]
    refine ⟨lacks_subheading rfl rfl, ?_⟩
    decide
  have hpart {title : String} (htitle : starts "⚠" title = false) (header : List String)
      (rows : List (List String)) : Lacks "⚠" (part title header rows) :=
    lacks_part rfl (by decide) htitle rfl header rows
  have htop : starts "⚠" ("Top " ++ Number.natText p.ranking.length ++ " Resources") = false := by
    rw [String.append_assoc]
    exact starts_append_of_areApart (by decide) _
  have hgap : Lacks "⚠" [""] := lacks_cons.mpr ⟨rfl, lacks_nil⟩
  refine warnsOf_append ?_ hgap _
  simp only [lacks_append]
  exact ⟨⟨⟨⟨hoverview, hcosts⟩, lacks_spaced (hpart rfl _ _) rfl⟩, lacks_spaced (hpart rfl _ _) rfl⟩,
    hpart htop _ _⟩

end Portfolio

namespace Allocations

theorem warnsOf_lines (currency : String) (allocations : List Allocation) :
    WarnsOf (lines currency false allocations) (uncosted allocations) := by
  unfold lines
  simp only [Bool.not_false, Bool.and_true, decide_eq_true_eq]
  refine warnsOf_append (lacks_append.mpr ⟨lacks_table rfl (by decide) _ _, ?_⟩) lacks_nil _
  rw [lacks_cons, lacks_cons, String.append_assoc]
  exact ⟨rfl, starts_natText rfl (by decide) _ _, lacks_nil⟩

end Allocations

end Report

/-! ## Resources that cost nothing -/

theorem isCosted_uncosted (r : Resource Float) : (Breakdown.uncosted r).isCosted = false := by
  have hzero : ((Scalar.zero : Float) == Scalar.zero) = true := by decide
  unfold Breakdown.isCosted Breakdown.uncosted
  rw [hzero]
  rfl

/-- A resource that costs nothing has no profile, or one that charges nothing. -/
theorem EngineOptions.countP_not_isCosted (o : EngineOptions Float) (profiles : List (Profile Float))
    (inventory : List (Resource Float)) :
    ((o.priceAll profiles inventory).countP fun b => !b.isCosted) =
      (inventory.countP fun r => (Profile.match? r profiles).isNone) +
        inventory.countP fun r => (Profile.match? r profiles).isSome &&
          !(o.price profiles inventory r).isCosted := by
  rw [priceAll_eq_map, List.countP_map, List.countP_eq_countP_filter_add _ _
    fun r => (Profile.match? r profiles).isNone, List.countP_filter, List.countP_filter]
  congr 1
  -- Without a profile, costing nothing is no condition; with one, it is the only condition.
  · refine List.countP_congr fun r _ => ?_
    cases hwinner : Profile.match? r profiles with
    | none => simp [o.price_of_match?_eq_none hwinner, isCosted_uncosted]
    | some p => simp
  · refine List.countP_congr fun r _ => ?_
    cases Profile.match? r profiles with
    | none => simp
    | some p => simp

theorem Report.Allocations.select_all (allocations : List Allocation) :
    select none false allocations = allocations :=
  List.filter_eq_self.mpr fun _ _ => rfl

theorem Report.Allocations.uncosted_zip {inventory : List (Resource Float)}
    {breakdowns : List (Breakdown Float)} (hlength : breakdowns.length = inventory.length) :
    uncosted (inventory.zip breakdowns) = breakdowns.countP fun b => !b.isCosted := by
  have hbreakdowns : (inventory.zip breakdowns).map Prod.snd = breakdowns :=
    List.map_snd_zip hlength.le
  unfold uncosted
  conv_rhs => rw [← hbreakdowns, List.countP_map]
  rfl

theorem Totals.costed_eq_zero_iff {α : Type} [Scalar α] (inventory : List (Resource α))
    (breakdowns : List (Breakdown α)) :
    (of inventory breakdowns).costed = 0 ↔
      (of inventory breakdowns).uncosted = breakdowns.length := by
  have hsum := costed_add_uncosted inventory breakdowns
  omega

/-! ## The event -/

theorem Event.name?_eq_uncosted_iff {e : Event} :
    e.name? = some "portfolio_uncosted" ↔ ∃ file count, e = .nothingCosted file count := by
  cases e <;> simp [name?, fields, savedFields, TextMap.lookup_cons_eq_ite]

namespace Trace

theorem name?_ne_of_mem_pricingAll {file : String} {o : EngineOptions Float}
    {profiles : List (Profile Float)} {inventory : List (Resource Float)}
    {breakdowns : List (Breakdown Float)} {e : Event}
    (he : e ∈ pricingAll file o profiles inventory breakdowns) :
    e.name? ≠ some "portfolio_uncosted" := by
  rw [Ne, Event.name?_eq_uncosted_iff]
  rintro ⟨file, count, rfl⟩
  rcases List.mem_append.mp he with he | he
  · obtain ⟨r, -, he⟩ := List.mem_flatMap.mp he
    unfold pricing at he
    split at he
    · rcases List.mem_cons.mp he with he | he
      · cases he
      · cases isDegradation_of_mem_charging he
    · cases List.mem_singleton.mp he
  · obtain ⟨b, -, hb⟩ := List.mem_map.mp he
    unfold result at hb
    split at hb
    · cases hb
    · cases hb

/-- There is an event about nothing but uncosted resources only behind the totals. -/
theorem exists_uncosted_closing_iff {file : String} {t : Totals Float} {c : Command} :
    (∃ e ∈ c.closing file t, e.name? = some "portfolio_uncosted") ↔
      (∃ top, c = .totals top) ∧ 0 < t.resources ∧ t.costed = 0 := by
  simp only [Event.name?_eq_uncosted_iff]
  cases c with
  | totals top =>
    show (∃ e ∈ totals file t, _) ↔ _
    unfold totals
    split
    · rename_i h
      simp [h]
    · rename_i h
      simp [h]
  | _ => simp [Command.closing]

end Trace

/-! ## One run -/

namespace Workspace

variable {w : Workspace} {inventory : List (Resource Float)} {store : Store Float}

/-- The lines of the report on the totals. -/
def totalsLines (w : Workspace) (store : Store Float) (inventory : List (Resource Float))
    (top : ℕ) : List String :=
  let (breakdowns, totals) := w.engine.portfolio store.profiles inventory
  Report.Portfolio.lines w.currency
    ⟨totals, StatusCounts.of store.profiles, topByCost top breakdowns⟩

/-- The lines of the report on the allocations of all resources. -/
def allocationsLines (w : Workspace) (store : Store Float) (inventory : List (Resource Float)) :
    List String :=
  Report.Allocations.lines w.currency false
    (inventory.zip (w.engine.priceAll store.profiles inventory))

theorem render_table (htable : w.format = .table) (lines : List String) (document : Json) :
    w.render lines document = Report.text lines := by
  unfold render
  rw [htable]

theorem output_totals (hinventory : w.reading.result = .ok inventory)
    (hstore : w.readStore = .ok store) (htable : w.format = .table) (top : ℕ) :
    (w.run (.totals top)).output = Report.text (w.totalsLines store inventory top) := by
  let report : Report.Portfolio :=
    ⟨(w.engine.portfolio store.profiles inventory).2, StatusCounts.of store.profiles,
      topByCost top (w.engine.portfolio store.profiles inventory).1⟩
  rw [← render_table htable _ report.toJson, run, showTotals,
    withInventory_withStore hinventory hstore]
  rfl

theorem output_allocations (hinventory : w.reading.result = .ok inventory)
    (hstore : w.readStore = .ok store) (htable : w.format = .table) :
    (w.run (.allocations none false)).output =
      Report.text (w.allocationsLines store inventory) := by
  let allocations := inventory.zip (w.engine.priceAll store.profiles inventory)
  rw [← render_table htable _ (Report.Allocations.toJson allocations), run, showAllocations,
    withInventory_withStore hinventory hstore]
  dsimp only
  rw [Report.Allocations.select_all]
  rfl

theorem warnsOf_totalsLines (w : Workspace) (store : Store Float)
    (inventory : List (Resource Float)) (top : ℕ) :
    Report.WarnsOf (w.totalsLines store inventory top)
      (w.engine.portfolio store.profiles inventory).2.uncosted :=
  Report.Portfolio.warnsOf_lines w.currency _

theorem warnsOf_allocationsLines (w : Workspace) (store : Store Float)
    (inventory : List (Resource Float)) :
    Report.WarnsOf (w.allocationsLines store inventory)
      (w.engine.portfolio store.profiles inventory).2.uncosted := by
  have hlength := w.engine.length_priceAll store.profiles inventory
  have huncosted : (w.engine.portfolio store.profiles inventory).2.uncosted =
      Report.Allocations.uncosted
        (inventory.zip (w.engine.priceAll store.profiles inventory)) :=
    (Report.Allocations.uncosted_zip hlength).symm
  rw [huncosted]
  exact Report.Allocations.warnsOf_lines w.currency _

/-- The event that nothing is costed comes from the totals, and only if they are of resources none of
which costs anything. -/
theorem exists_uncosted_event_iff (hinventory : w.reading.result = .ok inventory)
    (hstore : w.readStore = .ok store) {c : Command} (hc : c.prices = true) :
    (∃ e ∈ (w.run c).events, e.name? = some "portfolio_uncosted") ↔
      (∃ top, c = .totals top) ∧ 0 < inventory.length ∧
        (w.engine.portfolio store.profiles inventory).2.uncosted = inventory.length := by
  obtain ⟨-, hevents⟩ := run_of_prices hinventory hstore hc
  have hlength := w.engine.length_priceAll store.profiles inventory
  have hclosing : (∃ e ∈ (w.run c).events, e.name? = some "portfolio_uncosted") ↔
      ∃ e ∈ c.closing w.resources (w.engine.portfolio store.profiles inventory).2,
        e.name? = some "portfolio_uncosted" := by
    rw [hevents]
    constructor
    · rintro ⟨e, he, hname⟩
      rcases List.mem_append.mp he with he | he
      · obtain ⟨id, rfl⟩ := Inventory.tagsIgnored_of_mem_read he
        obtain ⟨file, count, h⟩ := Event.name?_eq_uncosted_iff.mp hname
        cases h
      · rcases List.mem_append.mp he with he | he
        · exact absurd hname (Trace.name?_ne_of_mem_pricingAll he)
        · exact ⟨e, he, hname⟩
    · rintro ⟨e, he, hname⟩
      exact ⟨e, List.mem_append_right _ (List.mem_append_right _ he), hname⟩
  have hresources : (w.engine.portfolio store.profiles inventory).2.resources =
      inventory.length := hlength
  have hnone : (w.engine.portfolio store.profiles inventory).2.costed = 0 ↔
      (w.engine.portfolio store.profiles inventory).2.uncosted = inventory.length := by
    rw [← hlength]
    exact Totals.costed_eq_zero_iff inventory _
  rw [hclosing, Trace.exists_uncosted_closing_iff, hresources, hnone]

/-- The number in the warning of both reports for people is that of the resources that no profile
prices together with those whose profile charges nothing, and there is no warning if there are none of
either. The event that nothing is costed comes from the totals, exactly if these are all resources and
there is one. -/
theorem warnings_count_what_costs_nothing (hinventory : w.reading.result = .ok inventory)
    (hstore : w.readStore = .ok store) :
    let unmatched := inventory.countP fun r => (Profile.match? r store.profiles).isNone
    let free := inventory.countP fun r => (Profile.match? r store.profiles).isSome &&
      !(w.engine.price store.profiles inventory r).isCosted
    (∀ top, Report.WarnsOf (w.totalsLines store inventory top) (unmatched + free)) ∧
    Report.WarnsOf (w.allocationsLines store inventory) (unmatched + free) ∧
    (w.format = .table →
      (∀ top, (w.run (.totals top)).output =
        Report.text (w.totalsLines store inventory top)) ∧
      (w.run (.allocations none false)).output =
        Report.text (w.allocationsLines store inventory)) ∧
    ∀ c : Command, c.prices = true →
      ((∃ e ∈ (w.run c).events, e.name? = some "portfolio_uncosted") ↔
        (∃ top, c = .totals top) ∧ 0 < inventory.length ∧
          unmatched + free = inventory.length) := by
  intro unmatched free
  have huncosted : (w.engine.portfolio store.profiles inventory).2.uncosted = unmatched + free :=
    w.engine.countP_not_isCosted store.profiles inventory
  rw [← huncosted]
  refine ⟨?_, ?_, ?_, ?_⟩
  · exact w.warnsOf_totalsLines store inventory
  · exact w.warnsOf_allocationsLines store inventory
  · intro htable
    exact ⟨output_totals hinventory hstore htable, output_allocations hinventory hstore htable⟩
  · intro c hc
    exact exists_uncosted_event_iff hinventory hstore hc

end Workspace

namespace Sample

/-- The text of an inventory of one resource, which has no CPU. -/
def bareText : String := "[\x7b\"id\": \"1\", \"name\": \"web\"\x7d]"

/-- The text of a store of a published profile with a rate per CPU, which applies to that resource. -/
def perCpuText : String :=
  "[\x7b\"name\": \"Power\", \"status\": \"published\", \"rules\": \x7b\"conditions\": " ++
    "[\x7b\"field\": \"name\", \"operator\": \"equals\", \"value\": \"web\"\x7d]\x7d, " ++
    "\"costComponents\": [\x7b\"name\": \"Watts\", \"type\": \"per-cpu\", \"value\": 10\x7d]\x7d]"

/-- The only resource there has a profile and costs nothing. -/
theorem perCpu_counts :
    let w := workspace bareText perCpuText
    ∃ inventory store, w.reading.result = .ok inventory ∧ w.readStore = .ok store ∧
      inventory.length = 1 ∧
      (inventory.countP fun r => (Profile.match? r store.profiles).isNone) = 0 ∧
      (w.engine.portfolio store.profiles inventory).2.uncosted = 1 := by
  intro w
  have hcounts : (w.reading.result.toOption.bind fun inventory =>
      w.readStore.toOption.map fun store =>
        (inventory.length, inventory.countP fun r => (Profile.match? r store.profiles).isNone,
          (w.engine.portfolio store.profiles inventory).2.uncosted)) = some (1, 0, 1) := by
    decide +kernel
  obtain ⟨inventory, hinventory, hmap⟩ := Option.bind_eq_some_iff.mp hcounts
  obtain ⟨store, hstore, hnumbers⟩ := Option.map_eq_some_iff.mp hmap
  obtain ⟨hlength, hrest⟩ := Prod.mk.inj hnumbers
  obtain ⟨hunmatched, huncosted⟩ := Prod.mk.inj hrest
  exact ⟨inventory, store, Workspace.toOption_eq_some hinventory,
    Workspace.toOption_eq_some hstore, hlength, hunmatched, huncosted⟩

end Sample

/-- The report on that workspace warns of a resource without a profile, and there is an event that no
resource has one, although the only resource has one. -/
theorem Workspace.warning_of_matched_resource :
    let w := Sample.workspace Sample.bareText Sample.perCpuText
    ∃ inventory store, w.reading.result = .ok inventory ∧ w.readStore = .ok store ∧
      (inventory.countP fun r => (Profile.match? r store.profiles).isNone) = 0 ∧
      (w.run (.totals 5)).output = Report.text (w.totalsLines store inventory 5) ∧
      Report.WarnsOf (w.totalsLines store inventory 5) 1 ∧
      (w.run (.allocations none false)).output =
        Report.text (w.allocationsLines store inventory) ∧
      Report.WarnsOf (w.allocationsLines store inventory) 1 ∧
      ∃ e ∈ (w.run (.totals 5)).events, e.name? = some "portfolio_uncosted" := by
  intro w
  obtain ⟨inventory, store, hinventory, hstore, hlength, hunmatched, huncosted⟩ :=
    Sample.perCpu_counts
  refine ⟨inventory, store, hinventory, hstore, hunmatched,
    output_totals hinventory hstore rfl 5, ?_, output_allocations hinventory hstore rfl, ?_, ?_⟩
  · rw [← huncosted]
    exact w.warnsOf_totalsLines store inventory 5
  · rw [← huncosted]
    exact w.warnsOf_allocationsLines store inventory
  · refine (exists_uncosted_event_iff hinventory hstore rfl).mpr ⟨⟨5, rfl⟩, ?_, ?_⟩
    · rw [hlength]
      exact Nat.one_pos
    · rw [hlength]
      exact huncosted

theorem Workspace.warnings_count_what_costs_nothing_perCpu :
    let w := Sample.workspace Sample.bareText Sample.perCpuText
    ∃ inventory store, w.reading.result = .ok inventory ∧ w.readStore = .ok store ∧
      w.format = .table ∧ (Command.totals 5).prices = true ∧
      (inventory.countP fun r => (Profile.match? r store.profiles).isSome &&
        !(w.engine.price store.profiles inventory r).isCosted) = 1 ∧
      (w.run (.totals 5)).output = Report.text (w.totalsLines store inventory 5) ∧
      Report.WarnsOf (w.totalsLines store inventory 5) 1 ∧
      (w.run (.allocations none false)).output =
        Report.text (w.allocationsLines store inventory) ∧
      Report.WarnsOf (w.allocationsLines store inventory) 1 ∧
      ∃ e ∈ (w.run (.totals 5)).events, e.name? = some "portfolio_uncosted" := by
  intro w
  obtain ⟨inventory, store, hinventory, hstore, hlength, hunmatched, huncosted⟩ :=
    Sample.perCpu_counts
  have hfree : (inventory.countP fun r => (Profile.match? r store.profiles).isSome &&
      !(w.engine.price store.profiles inventory r).isCosted) = 1 := by
    have hsplit := w.engine.countP_not_isCosted store.profiles inventory
    rw [hunmatched, Nat.zero_add] at hsplit
    exact hsplit.symm.trans huncosted
  obtain ⟨htotals, hallocations, houtputs, hevent⟩ :=
    Workspace.warnings_count_what_costs_nothing hinventory hstore
  have htotals := htotals 5
  have hevent := hevent (.totals 5) rfl
  rw [hunmatched, hfree, Nat.zero_add] at htotals hallocations hevent
  obtain ⟨htext, hlist⟩ := houtputs rfl
  have hone : 0 < inventory.length := by
    rw [hlength]
    exact Nat.one_pos
  exact ⟨inventory, store, hinventory, hstore, rfl, rfl, hfree, htext 5, htotals, hlist,
    hallocations, hevent.mpr ⟨⟨5, rfl⟩, hone, hlength.symm⟩⟩

end Chargeback
