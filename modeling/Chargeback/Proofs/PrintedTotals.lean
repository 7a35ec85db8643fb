import Chargeback.Proofs.Amounts
import Chargeback.Proofs.DoubleArithmetic
import Chargeback.Proofs.Warnings

/-!
# The total at the end of two reports

The list of the allocations and the report on the totals both print what the portfolio costs every
month. The list adds the monthly amounts up from the zero that changes no sum, which has a minus sign,
and the totals start with the usual zero. No breakdown costs the negative zero, because its amount is
a sum that starts with the usual zero or a sum of two such sums. So the two totals are the same double
as soon as there is one resource, and of no resource the list prints a zero with a minus sign. To read
the amounts off the reports, the line of the total is told from all other lines by how it starts.
-/

namespace Chargeback

open Number

/-! ## What a resource costs -/

section

variable (profiles : List (Profile Float)) (population : List (Resource Float))

theorem AllocationOptions.monthly_breakdown_ne_negativeZero (o : AllocationOptions Float)
    (p : Profile Float) (r : Resource Float) :
    (o.breakdown p population r).monthly ≠ negativeZero := by
  unfold breakdown
  cases hmodel : p.model with
  | simple =>
    show (o.breakdownWith p _ r).monthly ≠ _
    rw [breakdownWith, hmodel]
    exact sum_ne_negativeZero _
  | advanced =>
    show (o.breakdownWith p _ r).monthly ≠ _
    rw [breakdownWith, hmodel]
    exact add_ne_negativeZero (sum_ne_negativeZero _) _

theorem EngineOptions.monthly_price_ne_negativeZero (o : EngineOptions Float)
    (r : Resource Float) : (o.price profiles population r).monthly ≠ negativeZero := by
  cases hwinner : Profile.match? r profiles with
  | none =>
    rw [o.price_of_match?_eq_none hwinner]
    exact sum_ne_negativeZero []
  | some p =>
    rw [o.price_of_match?_eq_some hwinner]
    exact o.allocation.monthly_breakdown_ne_negativeZero population p r

/-- From either zero on, the monthly amounts of a priced inventory add up to the same, unless it is
empty. -/
theorem EngineOptions.monthly_zip_priceAll (o : EngineOptions Float)
    {inventory : List (Resource Float)} (hinventory : inventory ≠ []) :
    Report.Allocations.monthly (inventory.zip (o.priceAll profiles inventory)) =
      (o.portfolio profiles inventory).2.monthly := by
  show _ = Scalar.sum ((o.priceAll profiles inventory).map Breakdown.monthly)
  unfold Report.Allocations.monthly
  rw [o.map_zip_priceAll profiles inventory Breakdown.monthly, priceAll_eq_map]
  cases inventory with
  | nil => exact absurd rfl hinventory
  | cons r rest => exact foldl_negativeZero (o.monthly_price_ne_negativeZero profiles _ r) _

end

/-- In every currency the two zeros have different texts. -/
theorem Money.inCurrency_negativeZero_ne (code : String) :
    inCurrency code negativeZero ≠ inCurrency code (Scalar.zero : Float) := by
  have hdigits : Scalar.money negativeZero = "-0.00" ∧
      Scalar.money (Scalar.zero : Float) = "0.00" := by decide +kernel
  rw [Ne, inCurrency_inj, hdigits.1, hdigits.2]
  decide

/-! ## The lines of the totals -/

namespace Report

/-- The line of the total below the allocations. -/
def Allocations.totalLine (count : ℕ) (amount : String) : String :=
  Number.natText count ++ " resources, monthly total " ++ amount

/-- The line of the total among the costs of the portfolio. -/
def Portfolio.totalLine (amount : String) : String := "Total:                  " ++ amount

theorem Allocations.totalLine_inj {m n : ℕ} {a b : String} :
    totalLine m a = totalLine n b ↔ m = n ∧ a = b := by
  constructor
  · intro h
    have hsplit (k : ℕ) (text : String) :
        Number.splitDigits (totalLine k text).toList =
          (Number.digitsOf k, " resources, monthly total ".toList ++ text.toList) := by
      unfold totalLine Number.natText
      rw [String.append_assoc, String.toList_append, String.toList_append, String.toList_ofList]
      exact Number.splitDigits_append (fun _ => Number.isDigit_of_mem_digitsOf)
        fun c hc => by cases hc; rfl
    have heq := (hsplit m a).symm.trans ((congrArg _ (congrArg _ h)).trans (hsplit n b))
    obtain ⟨hdigits, htext⟩ := Prod.mk.inj heq
    have htext := String.toList_inj.mp (List.append_cancel_left htext)
    refine ⟨?_, htext⟩
    rw [← Number.natOfDigits_digitsOf m, hdigits, Number.natOfDigits_digitsOf]
  · rintro ⟨rfl, rfl⟩
    rfl

theorem Portfolio.totalLine_inj {a b : String} : totalLine a = totalLine b ↔ a = b := by
  unfold totalLine
  exact String.append_right_inj _

theorem Portfolio.starts_totalLine (amount : String) : starts "Total:" (totalLine amount) = true :=
  starts_append (by decide) _

/-- Among the lines about the allocations is one about their total. -/
theorem Allocations.totalLine_mem_lines_iff (currency : String) (allocations : List Allocation)
    (count : ℕ) (amount : String) :
    totalLine count amount ∈ lines currency false allocations ↔
      count = allocations.length ∧
        amount = Money.inCurrency currency (monthly allocations) := by
  have htable : totalLine count amount ∉ table header (allocations.map (row currency)) := by
    intro hmem
    obtain ⟨mark, hmark, hhead⟩ := head?_of_mem_table hmem
    obtain ⟨c, hc, hdigit⟩ := exists_head?_natText count (" resources, monthly total " ++ amount)
    have hframe : ∀ m ∈ frameMarks, m.isDigit = false := by simp [frameMarks]
    rw [← String.append_assoc] at hc
    obtain rfl : c = mark := Option.some.inj (hc.symm.trans hhead)
    rw [hframe c hmark] at hdigit
    cases hdigit
  have hempty : totalLine count amount ≠ "" := by
    intro heq
    have hlist := congrArg String.toList heq
    simp [totalLine, String.toList_append] at hlist
  have hwarning (n : ℕ) : totalLine count amount ≠ uncostedWarning n := by
    intro heq
    have hmark := starts_uncostedWarning n
    rw [← heq, totalLine, String.append_assoc, starts_natText rfl (by decide)] at hmark
    cases hmark
  have hlines : lines currency false allocations =
      table header (allocations.map (row currency)) ++
        ["", totalLine allocations.length (Money.inCurrency currency (monthly allocations))] ++
        if 0 < uncosted allocations && !false then [uncostedWarning (uncosted allocations)]
        else [] := rfl
  rw [hlines]
  split <;> simp [htable, hempty, hwarning, totalLine_inj]

namespace Portfolio

theorem totalLine_mem_costs_iff (currency : String) (t : Totals Float) (amount : String) :
    totalLine amount ∈ costs currency t ↔ amount = Money.inCurrency currency t.monthly := by
  have hrest : Lacks "Total:"
      ["  CapEx:                " ++ Money.inCurrency currency t.capex,
       "  OpEx:                 " ++ Money.inCurrency currency t.opex,
       "One-time charges:       " ++ Money.inCurrency currency t.oneTime ++
          " (raw, amortized into the total)",
       ""] := by
    simp (disch := decide) only [lacks_cons, lacks_nil, and_true, String.append_assoc,
      starts_append_of_areApart]
    decide
  have hheading : Lacks "Total:" (subheading "Monthly Costs") := lacks_subheading rfl rfl
  show totalLine amount ∈ subheading "Monthly Costs" ++ totalLine _ :: _ ↔ _
  rw [List.mem_append, List.mem_cons, totalLine_inj]
  simp only [hheading.notMem (starts_totalLine amount), hrest.notMem (starts_totalLine amount),
    false_or, or_false]

/-- Among the lines about the portfolio is one about its total. -/
theorem totalLine_mem_lines_iff (currency : String) (p : Portfolio) (amount : String) :
    totalLine amount ∈ p.lines currency ↔
      amount = Money.inCurrency currency p.totals.monthly := by
  have hnot {lines : List String} (h : Lacks "Total:" lines) : totalLine amount ∉ lines :=
    h.notMem (starts_totalLine amount)
  have hoverview : Lacks "Total:" p.overview := by
    unfold overview heading
    simp (disch := decide) only [lacks_append, lacks_cons, lacks_nil, and_true, String.append_assoc,
      starts_append_of_areApart]
    decide
  have hpart (title : String) (htitle : starts "Total:" title = false) (header : List String)
      (rows : List (List String)) : Lacks "Total:" (part title header rows) :=
    lacks_part rfl (by decide) htitle rfl header rows
  have htop : starts "Total:" ("Top " ++ Number.natText p.ranking.length ++ " Resources") = false := by
    rw [String.append_assoc]
    exact starts_append_of_areApart (by decide) _
  have hwarning : Lacks "Total:" (if 0 < p.totals.uncosted then
      ["", uncostedWarning p.totals.uncosted] else []) := by
    split
    · exact lacks_cons.mpr
        ⟨rfl, lacks_cons.mpr ⟨starts_append_of_areApart (by decide) _, lacks_nil⟩⟩
    · exact lacks_nil
  unfold lines
  simp only [List.mem_append, totalLine_mem_costs_iff, hnot hoverview,
    hnot (lacks_spaced (hpart "Cost by Profile" rfl _ _) rfl),
    hnot (lacks_spaced (hpart "Cost by Component" rfl _ _) rfl), hnot (hpart _ htop _ _),
    hnot hwarning, false_or, or_false]

end Portfolio

end Report

/-! ## Both totals -/

namespace Workspace

variable {w : Workspace} {inventory : List (Resource Float)} {store : Store Float}

/-- The total at the end of the list of all allocations, as it is printed. -/
def listedTotal (w : Workspace) (store : Store Float) (inventory : List (Resource Float)) :
    String :=
  Money.inCurrency w.currency
    (Report.Allocations.monthly (inventory.zip (w.engine.priceAll store.profiles inventory)))

/-- The total in the report on the totals, as it is printed. -/
def reportedTotal (w : Workspace) (store : Store Float) (inventory : List (Resource Float)) :
    String :=
  Money.inCurrency w.currency (w.engine.portfolio store.profiles inventory).2.monthly

theorem listedTotal_eq_iff (w : Workspace) (store : Store Float)
    (inventory : List (Resource Float)) :
    w.listedTotal store inventory = w.reportedTotal store inventory ↔ inventory ≠ [] := by
  constructor
  · rintro heq rfl
    have hnone : w.engine.priceAll store.profiles [] = [] := w.engine.priceAll_eq_map ..
    unfold listedTotal reportedTotal EngineOptions.portfolio at heq
    rw [hnone] at heq
    exact Money.inCurrency_negativeZero_ne w.currency heq
  · intro hinventory
    unfold listedTotal reportedTotal
    rw [w.engine.monthly_zip_priceAll store.profiles hinventory]

/-- In both reports one line is about the total of the portfolio, and the two lines print the same
amount exactly if there is a resource. -/
theorem printed_totals_agree_iff (hinventory : w.reading.result = .ok inventory)
    (hstore : w.readStore = .ok store) (htable : w.format = .table) (top : ℕ) :
    (w.run (.allocations none false)).output =
      Report.text (w.allocationsLines store inventory) ∧
    (w.run (.totals top)).output = Report.text (w.totalsLines store inventory top) ∧
    (∀ count amount,
      Report.Allocations.totalLine count amount ∈ w.allocationsLines store inventory ↔
        count = inventory.length ∧ amount = w.listedTotal store inventory) ∧
    (∀ amount, Report.Portfolio.totalLine amount ∈ w.totalsLines store inventory top ↔
      amount = w.reportedTotal store inventory) ∧
    (w.listedTotal store inventory = w.reportedTotal store inventory ↔ inventory ≠ []) := by
  refine ⟨output_allocations hinventory hstore htable, output_totals hinventory hstore htable top,
    ?_, ?_, w.listedTotal_eq_iff store inventory⟩
  · intro count amount
    have hlength : (inventory.zip (w.engine.priceAll store.profiles inventory)).length =
        inventory.length := by
      rw [List.length_zip, w.engine.length_priceAll, Nat.min_self]
    unfold allocationsLines
    rw [Report.Allocations.totalLine_mem_lines_iff, hlength]
    rfl
  · intro amount
    exact Report.Portfolio.totalLine_mem_lines_iff w.currency _ amount

end Workspace

namespace Sample

/-- The text of an inventory of one resource with two CPUs. -/
def dualText : String := "[\x7b\"id\": \"1\", \"name\": \"web\", \"cpu_count\": 2\x7d]"

end Sample

/-- Of no resource the list prints a total with a minus sign, and the report on the totals one
without. -/
theorem Workspace.printed_totals_of_nothing :
    let w := Sample.workspace "[]" "[]"
    (w.run (.allocations none false)).output = Report.text
      ["No items found", "", Report.Allocations.totalLine 0 "-0.00 A$"] ∧
    (w.run (.totals 5)).output = Report.text
      ["Portfolio Totals", "============================================================",
       "Resources:              0 (0 costed, 0 uncosted, 0.0% coverage)",
       "Profiles:               0 published, 0 in review, 0 draft",
       "Inventory:              0 CPU, 0 GB memory, 0.0 TB storage", "",
       "Monthly Costs", "------------------------------------------------------------",
       Report.Portfolio.totalLine "0.00 A$", "  CapEx:                0.00 A$",
       "  OpEx:                 0.00 A$",
       "One-time charges:       0.00 A$ (raw, amortized into the total)", ""] := by
  decide +kernel

theorem Workspace.printed_totals_agree_iff_dual :
    let w := Sample.workspace Sample.dualText Sample.perCpuText
    ∃ inventory store, w.reading.result = .ok inventory ∧ w.readStore = .ok store ∧
      w.format = .table ∧ inventory.length = 1 ∧
      (∀ amount, Report.Allocations.totalLine 1 amount ∈ w.allocationsLines store inventory ↔
        amount = "20.00 A$") ∧
      (∀ amount, Report.Portfolio.totalLine amount ∈ w.totalsLines store inventory 5 ↔
        amount = "20.00 A$") := by
  intro w
  have hprinted : (w.reading.result.toOption.bind fun inventory =>
      w.readStore.toOption.map fun store =>
        (inventory.length, w.reportedTotal store inventory)) = some (1, "20.00 A$") := by
    decide +kernel
  obtain ⟨inventory, hinventory, hmap⟩ := Option.bind_eq_some_iff.mp hprinted
  obtain ⟨store, hstore, hpair⟩ := Option.map_eq_some_iff.mp hmap
  obtain ⟨hlength, hreported⟩ := Prod.mk.inj hpair
  have hinventory := Workspace.toOption_eq_some hinventory
  have hstore := Workspace.toOption_eq_some hstore
  obtain ⟨-, -, hlist, htotals, hagree⟩ :=
    Workspace.printed_totals_agree_iff hinventory hstore rfl 5
  have hne : inventory ≠ [] := List.ne_nil_of_length_pos (hlength ▸ Nat.one_pos)
  have hlisted := (hagree.mpr hne).trans hreported
  refine ⟨inventory, store, hinventory, hstore, rfl, hlength, ?_, ?_⟩
  · intro amount
    rw [hlist, hlength, hlisted]
    exact and_iff_right rfl
  · intro amount
    rw [htotals, hreported]

end Chargeback
