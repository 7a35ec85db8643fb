import Chargeback.Proofs.Batch
import Chargeback.Proofs.Components
import Chargeback.Proofs.Documents
import Chargeback.Proofs.DoubleArithmetic
import Chargeback.Report.Allocations

/-!
# Breakdowns are read back from their documents

The text of a breakdown says the same as its document, because every double in it is a finite one or has
been written as nothing. Where a document needs a number, nothing is refused. So a breakdown is read back
as soon as its amounts are finite, and not at all if its cost of a month or its charges at the start are
not. In the breakdowns of an engine all other amounts go into these two, by sums and products, which are
finite only if everything in them is.
-/

namespace Chargeback

open Json

/-! ## Parts of a document -/

theorem float?_ofFloat (x : Float) : float? (ofFloat x) = if x.isFinite then some x else none := by
  rw [ofFloat]
  split
  · rfl
  · rfl

theorem bind_float?_ofFloat {ι : Type} (x : Float) (rest : Float → Option ι) :
    (float? (ofFloat x)).bind rest = if x.isFinite then rest x else none := by
  rw [float?_ofFloat]
  split
  · rfl
  · rfl

theorem fst_mem_optionalField {ι : Type} {name name' : String} {toJson : ι → Json} {value : Option ι} :
    name ∈ (optionalField name' toJson value).map Prod.fst ↔ value.isSome = true ∧ name = name' := by
  cases value with
  | none => simp [optionalField]
  | some x => simp [optionalField]

section Fields

variable {fields : List (String × Json)} {name : String} {ι : Type} (position : Nat)
  (hnames : (fields.map Prod.fst).Nodup)

include hnames in
theorem required?_obj {value : Json} (h : (name, value) ∈ fields) (read : Json → Option ι) :
    required? (.obj fields) position [name] read = read value := by
  rw [← seenThrough_self]
  exact required?_seenThrough _ position hnames h

include hnames in
theorem optional?_obj (toJson : ι → Json) {read : Json → Option (Option ι)} {value : Option ι}
    (hsome : ∀ x, value = some x → (name, toJson x) ∈ fields)
    (hnone : value = none → name ∉ fields.map Prod.fst)
    (hread : ∀ x, value = some x → read (toJson x) = some (some x)) :
    optional? (.obj fields) position [name] none read = some value := by
  rw [← seenThrough_self]
  exact optional?_optionalField _ position hnames hsome hnone hread

include hnames in
/-- A number that may be missing is read back if it is finite. -/
theorem optional?_ofFloat {value : Option Float} (hfinite : ∀ x ∈ value, x.isFinite = true)
    (hsome : ∀ x, value = some x → (name, ofFloat x) ∈ fields)
    (hnone : value = none → name ∉ fields.map Prod.fst) :
    optional? (.obj fields) position [name] none (nullable? float?) = some value := by
  refine optional?_obj position hnames ofFloat hsome hnone fun x hx => ?_
  rw [ofFloat, if_pos (hfinite x hx)]
  rfl

end Fields

/-! ## Items -/

namespace LineItem

def fields (i : LineItem Float) : List (String × Json) :=
  [("name", Json.str i.name), ("component_type", Json.str i.kind), ("category", Json.str i.category)] ++
    optionalField "cost_class" (fun c => Json.str c.name) i.costClass ++
    [("value", Json.ofFloat i.value)] ++ optionalField "pool_total" Json.ofFloat i.pool ++
    optionalField "share" Json.ofFloat i.share ++ [("calculation", Json.str i.calculation)] ++
    if i.degraded then [("degraded", Json.bool true)] else []

theorem toJson_eq_obj (i : LineItem Float) : i.toJson = .obj i.fields := rfl

theorem nodup_fields (i : LineItem Float) : (i.fields.map Prod.fst).Nodup := by
  rw [fields]
  cases i.costClass <;> cases i.pool <;> cases i.share <;> cases i.degraded <;>
    simp [optionalField]

/-- The fields of an item are texts, numbers and a mark. -/
theorem forall_mem_fields {P : Json → Prop} (hstr : ∀ s, P (.str s)) (hfloat : ∀ x, P (.ofFloat x))
    (hbool : ∀ b, P (.bool b)) (i : LineItem Float) : ∀ f ∈ i.fields, P f.2 := by
  simp only [fields, List.forall_mem_append]
  refine ⟨⟨⟨⟨⟨⟨?_, of_mem_optionalField fun c => hstr c.name⟩, ?_⟩, of_mem_optionalField hfloat⟩,
    of_mem_optionalField hfloat⟩, ?_⟩, ?_⟩
  · simp [hstr]
  · simp [hfloat]
  · simp [hstr]
  · split <;> simp [hbool]

theorem printable_toJson (i : LineItem Float) : Printable i.toJson :=
  .obj (i.forall_mem_fields .str printable_ofFloat .bool)

/-- The text of an item says the same as its document. -/
theorem reread_toJson (limit : Nat) (i : LineItem Float) : reread (limit + 1) i.toJson = i.toJson :=
  reread_obj_of_forall (i.forall_mem_fields (P := fun j => reread limit j = j) (reread_str limit)
    (reread_ofFloat limit) fun b => by simp [reread])

structure IsFinite (i : LineItem Float) : Prop where
  value : i.value.isFinite = true
  pool : ∀ x ∈ i.pool, x.isFinite = true
  share : ∀ x ∈ i.share, x.isFinite = true

/-- An item is read back if its amounts are finite. -/
theorem read?_toJson {i : LineItem Float} (h : i.IsFinite) : LineItem.read? i.toJson = some i := by
  have hgiven {name : String} {value : Json} (h : (name, value) ∈ i.fields) {κ : Type}
      (position : Nat) (read : Json → Option κ) :
      required? i.toJson position [name] read = read value :=
    required?_obj position i.nodup_fields h read
  have hrecord : isRecord 9 i.toJson = true := rfl
  have hname := @hgiven "name" (.str i.name) (by simp [fields])
  have hkind := @hgiven "component_type" (.str i.kind) (by simp [fields])
  have hcategory := @hgiven "category" (.str i.category) (by simp [fields])
  have hamount := @hgiven "value" (.ofFloat i.value) (by simp [fields])
  have hcalculation := @hgiven "calculation" (.str i.calculation) (by simp [fields])
  have hclass : optional? i.toJson 3 ["cost_class"] none (nullable? CostClass.read?) =
      some i.costClass := by
    refine optional?_obj 3 i.nodup_fields (fun c => .str c.name) (fun c hc => ?_) (fun hnone => ?_)
      fun c _ => ?_
    · simp [fields, hc, optionalField]
    · cases hmark : i.degraded <;> simp [fields, fst_mem_optionalField, hnone, hmark]
    · cases c <;> rfl
  have hpoolField : optional? i.toJson 5 ["pool_total"] none (nullable? float?) = some i.pool := by
    refine optional?_ofFloat 5 i.nodup_fields h.pool (fun x hx => ?_) fun hnone => ?_
    · simp [fields, hx, optionalField]
    · cases hmark : i.degraded <;> simp [fields, fst_mem_optionalField, hnone, hmark]
  have hshareField : optional? i.toJson 6 ["share"] none (nullable? float?) = some i.share := by
    refine optional?_ofFloat 6 i.nodup_fields h.share (fun x hx => ?_) fun hnone => ?_
    · simp [fields, hx, optionalField]
    · cases hmark : i.degraded <;> simp [fields, fst_mem_optionalField, hnone, hmark]
  have hdegraded : optional? i.toJson 8 ["degraded"] false bool? = some i.degraded := by
    rw [toJson_eq_obj, ← seenThrough_self]
    cases hmark : i.degraded with
    | false =>
      refine optional?_seenThrough_of_not_mem _ 8 ?_ false
      simp [fields, fst_mem_optionalField, hmark]
    | true =>
      have hmem : ("degraded", Json.bool true) ∈ i.fields := by simp [fields, hmark]
      rw [optional?_seenThrough _ 8 i.nodup_fields hmem, bool?]
  rw [LineItem.read?, hrecord]
  simp only [hname, hkind, hcategory, hclass, hamount, hpoolField, hshareField, hcalculation,
    hdegraded, str?, float?_ofFloat, h.value, if_true, guard_true, Option.bind_eq_bind,
    Option.pure_def, Option.bind_some]

end LineItem

/-! ## Breakdowns -/

namespace Breakdown

def fields (b : Breakdown Float) : List (String × Json) :=
  [("resource_id", Json.str b.resourceId), ("resource_name", Json.str b.resourceName)] ++
    optionalField "cost_model" (fun m => Json.str m.name) b.model ++
    [("applied_profiles", Json.ofList Json.str b.profiles),
      ("monthly_total", Json.ofFloat b.monthly), ("one_time_total", Json.ofFloat b.oneTime),
      ("capex_total", Json.ofFloat b.capex), ("opex_total", Json.ofFloat b.opex),
      ("line_items", Json.ofList LineItem.toJson b.items)]

theorem nodup_fields (b : Breakdown Float) : (b.fields.map Prod.fst).Nodup := by
  rw [fields]
  cases b.model <;> simp [optionalField]

/-- The fields of a breakdown are texts, numbers and two lists. -/
theorem forall_mem_fields {P : Json → Prop} (hstr : ∀ s, P (.str s)) (hfloat : ∀ x, P (.ofFloat x))
    {b : Breakdown Float} (hprofiles : P (.ofList .str b.profiles))
    (hitems : P (.ofList LineItem.toJson b.items)) : ∀ f ∈ b.fields, P f.2 := by
  simp only [fields, List.forall_mem_append]
  refine ⟨⟨?_, of_mem_optionalField fun m => hstr m.name⟩, ?_⟩
  · simp [hstr]
  · simp [hfloat, hprofiles, hitems]

theorem printable_toJson (b : Breakdown Float) : Printable b.toJson :=
  .obj (forall_mem_fields .str printable_ofFloat (printable_ofList fun s _ => .str s)
    (printable_ofList fun i _ => i.printable_toJson))

/-- The text of a breakdown says the same as its document. -/
theorem reread_toJson (limit : Nat) (b : Breakdown Float) :
    reread (limit + 3) b.toJson = b.toJson :=
  reread_obj_of_forall (forall_mem_fields (P := fun j => reread (limit + 2) j = j)
    (reread_str (limit + 2)) (reread_ofFloat (limit + 2))
    (reread_ofList fun s _ => reread_str (limit + 1) s)
    (reread_ofList fun i _ => i.reread_toJson limit))

/-- What a breakdown is read back as. -/
theorem read?_toJson (b : Breakdown Float) :
    Breakdown.read? b.toJson =
      if b.monthly.isFinite ∧ b.oneTime.isFinite ∧ b.capex.isFinite ∧ b.opex.isFinite then
        (list? LineItem.read? (.ofList LineItem.toJson b.items)).map fun items => { b with items }
      else none := by
  have hgiven {name : String} {value : Json} (h : (name, value) ∈ b.fields) {κ : Type}
      (position : Nat) (read : Json → Option κ) :
      required? b.toJson position [name] read = read value :=
    required?_obj position b.nodup_fields h read
  have hrecord : isRecord 9 b.toJson = true := rfl
  have hid := @hgiven "resource_id" (.str b.resourceId) (by simp [fields])
  have hname := @hgiven "resource_name" (.str b.resourceName) (by simp [fields])
  have hprofiles := @hgiven "applied_profiles" (.ofList .str b.profiles) (by simp [fields])
  have hmonthly := @hgiven "monthly_total" (.ofFloat b.monthly) (by simp [fields])
  have honeTime := @hgiven "one_time_total" (.ofFloat b.oneTime) (by simp [fields])
  have hcapex := @hgiven "capex_total" (.ofFloat b.capex) (by simp [fields])
  have hopex := @hgiven "opex_total" (.ofFloat b.opex) (by simp [fields])
  have hitems := @hgiven "line_items" (.ofList LineItem.toJson b.items) (by simp [fields])
  have hmodel : optional? b.toJson 2 ["cost_model"] none (nullable? CostModel.read?) =
      some b.model := by
    refine optional?_obj 2 b.nodup_fields (fun m => .str m.name) (fun m hm => ?_) (fun hnone => ?_)
      fun m _ => ?_
    · simp [fields, hm, optionalField]
    · simp [fields, fst_mem_optionalField, hnone]
    · cases m <;> rfl
  have hnames : list? str? (.ofList .str b.profiles) = some b.profiles := list?_ofList fun _ _ => rfl
  rw [Breakdown.read?, hrecord]
  simp only [hid, hname, hmodel, hprofiles, hnames, hmonthly, honeTime, hcapex, hopex, hitems, str?,
    bind_float?_ofFloat, guard_true, Option.bind_eq_bind, Option.pure_def, Option.bind_some, ite_and]
  cases list? LineItem.read? (ofList LineItem.toJson b.items) with
  | none => rfl
  | some items => rfl

structure IsFinite (b : Breakdown Float) : Prop where
  monthly : b.monthly.isFinite = true
  oneTime : b.oneTime.isFinite = true
  capex : b.capex.isFinite = true
  opex : b.opex.isFinite = true
  items : ∀ i ∈ b.items, i.IsFinite

theorem IsFinite.read?_toJson {b : Breakdown Float} (h : b.IsFinite) :
    Breakdown.read? b.toJson = some b := by
  have hitems : list? LineItem.read? (ofList LineItem.toJson b.items) = some b.items :=
    list?_ofList fun i hi => LineItem.read?_toJson (h.items i hi)
  rw [Breakdown.read?_toJson, if_pos ⟨h.monthly, h.oneTime, h.capex, h.opex⟩, hitems]
  rfl

end Breakdown

/-! ## Texts -/

/-- The text of a document is read as this document if it says the same. -/
theorem Json.Printable.read?_text {j : Json} (hj : Printable j)
    (hsame : reread depthLimit j = j) : Json.read? (Report.text [j.pretty]) = some j := by
  have htext : Report.text [j.pretty] = j.pretty ++ "\n" := String.empty_append
  rw [htext, hj.read?_pretty, hsame]

theorem Breakdown.read?_text (b : Breakdown Float) :
    Json.read? (Report.text [b.toJson.pretty]) = some b.toJson :=
  b.printable_toJson.read?_text (b.reread_toJson (depthLimit - 3))

/-- The printed report on allocations is read as the list of the documents of its breakdowns. -/
theorem Report.Allocations.read?_text (allocations : List Allocation) :
    Json.read? (Report.text [(toJson allocations).pretty]) =
      some (.arr (allocations.map fun a => a.2.toJson)) := by
  have hprintable : Printable (toJson allocations) :=
    printable_ofList fun a _ => a.2.printable_toJson
  have hsame : reread depthLimit (toJson allocations) = toJson allocations :=
    reread_ofList fun a _ => a.2.reread_toJson (depthLimit - 4)
  exact hprintable.read?_text hsame

/-! ## Amounts of the engine -/

namespace Breakdown

theorem isFinite_uncosted (r : Resource Float) : (uncosted r).IsFinite :=
  ⟨Number.isFinite_zero, Number.isFinite_zero, Number.isFinite_zero, Number.isFinite_zero,
    fun i hi => by cases hi⟩

/-- Of the simple model every charge goes into the month. -/
theorem isFinite_simpleBreakdown {periods : Nat} {p : Profile Float} {r : Resource Float}
    (hmonthly : (simpleBreakdown periods p r).monthly.isFinite = true)
    (honeTime : (simpleBreakdown periods p r).oneTime.isFinite = true) :
    (simpleBreakdown periods p r).IsFinite := by
  refine ⟨hmonthly, honeTime, Number.isFinite_zero, Number.isFinite_zero, fun i hi => ?_⟩
  have hvalue := Number.isFinite_of_sum hmonthly i.value (List.mem_map_of_mem hi)
  obtain ⟨c, -, rfl⟩ := List.mem_map.mp hi
  exact ⟨hvalue, (by rintro x ⟨⟩), by rintro x ⟨⟩⟩

/-- The value of a shared item is its pool times its share, so both are finite if it is. -/
theorem isFinite_lineItem {w : Weights Float} {totals : PoolTotals Float} {r : Resource Float}
    {c : SharedItem Float} (h : (c.lineItem w totals r).value.isFinite = true) :
    (c.lineItem w totals r).IsFinite := by
  have hproduct := h
  rw [c.lineItem_value] at hproduct
  obtain ⟨hpool, hshare⟩ := Number.isFinite_of_mul hproduct
  refine ⟨h, ?_, ?_⟩
  · cases c with
    | hardware c => rintro x ⟨⟩; exact hpool
    | running list c => rintro x ⟨⟩; exact hpool
  · cases c with
    | hardware c => rintro x ⟨⟩; exact hshare
    | running list c => rintro x ⟨⟩; exact hshare

/-- Of the advanced model every charge goes into the capital or the operating expense, and both into
the month. -/
theorem isFinite_advancedBreakdown {w : Weights Float} {totals : PoolTotals Float} {p : Profile Float}
    {r : Resource Float} (hmonthly : (advancedBreakdown w totals p r).monthly.isFinite = true) :
    (advancedBreakdown w totals p r).IsFinite := by
  obtain ⟨hcapex, hopex⟩ := Number.isFinite_of_add hmonthly
  refine ⟨hmonthly, Number.isFinite_zero, hcapex, hopex, fun i hi => ?_⟩
  have hvalue : i.value.isFinite = true := by
    rcases List.mem_append.mp hi with hi | hi
    · exact Number.isFinite_of_sum hcapex i.value (List.mem_map_of_mem hi)
    · exact Number.isFinite_of_sum hopex i.value (List.mem_map_of_mem hi)
  rw [advancedBreakdown_items] at hi
  obtain ⟨c, -, rfl⟩ := List.mem_map.mp hi
  exact isFinite_lineItem hvalue

end Breakdown

/-- The amounts of a breakdown are finite as soon as the two are that it is charged with in the end. -/
theorem EngineOptions.isFinite_price_iff (o : EngineOptions Float) (profiles : List (Profile Float))
    (population : List (Resource Float)) (r : Resource Float) :
    (o.price profiles population r).IsFinite ↔
      (o.price profiles population r).monthly.isFinite = true ∧
        (o.price profiles population r).oneTime.isFinite = true := by
  refine ⟨fun h => ⟨h.monthly, h.oneTime⟩, fun ⟨hmonthly, honeTime⟩ => ?_⟩
  cases hwinner : Profile.match? r profiles with
  | none =>
    rw [o.price_of_match?_eq_none hwinner]
    exact Breakdown.isFinite_uncosted r
  | some p =>
    rw [o.price_of_match?_eq_some hwinner] at hmonthly honeTime ⊢
    unfold AllocationOptions.breakdown AllocationOptions.breakdownWith at *
    cases hmodel : p.model with
    | simple =>
      simp only [hmodel] at hmonthly honeTime ⊢
      exact Breakdown.isFinite_simpleBreakdown hmonthly honeTime
    | advanced =>
      simp only [hmodel] at hmonthly ⊢
      exact Breakdown.isFinite_advancedBreakdown hmonthly

/-! ## Reading back -/

/-- Whatever the options, the profiles and the inventory are: the document of a breakdown is read as the
same breakdown if its amounts are all finite, which they are if its cost of a month and its charges at
the start are, and otherwise it is refused. The text of the document is read as the document, and the
printed list of all breakdowns as the list of their documents. -/
theorem EngineOptions.breakdown_read_back_iff (o : EngineOptions Float)
    (profiles : List (Profile Float)) (inventory : List (Resource Float)) {b : Breakdown Float}
    (hb : b ∈ o.priceAll profiles inventory) :
    let prices := o.priceAll profiles inventory
    (b.IsFinite ↔ b.monthly.isFinite = true ∧ b.oneTime.isFinite = true) ∧
      Breakdown.read? b.toJson =
        (if b.monthly.isFinite ∧ b.oneTime.isFinite then some b else none) ∧
      Json.read? (Report.text [b.toJson.pretty]) = some b.toJson ∧
      Json.read? (Report.text [(Report.Allocations.toJson (inventory.zip prices)).pretty]) =
        some (.arr (prices.map Breakdown.toJson)) := by
  intro prices
  have hreport := Report.Allocations.read?_text (inventory.zip prices)
  rw [o.map_zip_priceAll profiles inventory Breakdown.toJson] at hreport
  rw [priceAll_eq_map] at hb
  obtain ⟨r, -, rfl⟩ := List.mem_map.mp hb
  have hfinite := o.isFinite_price_iff profiles inventory r
  refine ⟨hfinite, ?_, Breakdown.read?_text _, hreport⟩
  split
  · rename_i hamounts
    exact (hfinite.mpr hamounts).read?_toJson
  · rename_i hamounts
    rw [Breakdown.read?_toJson, if_neg fun h => hamounts ⟨h.1, h.2.1⟩]

namespace Sample

/-- The document of a published profile with a piece of hardware that is written off over some years. -/
def rackDocument (years : Float) : Json :=
  .obj [("name", .str "Rack"), ("status", .str "published"), ("costModel", .str "advanced"),
    ("rules", .obj [("conditions", .arr [.obj [("field", .str "name"), ("operator", .str "equals"),
      ("value", .str "web")]])]),
    ("advancedCostComponents", .obj [("hardware", .arr [.obj [("name", .str "Blade"),
      ("purchasePrice", .int 1000), ("depreciationYears", .float years)]])])]

/-- What the only resource that there is costs under the usual options. -/
def rackPrices (years : Float) : Option (List (Breakdown Float)) := do
  let options ← EngineOptions.read? (.obj [])
  let profile ← Profile.read? (rackDocument years)
  let resource ← Resource.read? (.obj [("id", .str "1"), ("name", .str "web")])
  return options.priceAll [profile] [resource]

end Sample

/-- A price that is written off in next to no time is beyond the largest double every month, and the
breakdown is not read back. -/
theorem EngineOptions.breakdown_not_read_back :
    (Sample.rackPrices 1e-310).map (fun prices => prices.map fun b =>
      ((Json.read? (Report.text [b.toJson.pretty])).bind Breakdown.read?).isSome) = some [false] := by
  simp only [Breakdown.read?_text, Option.bind_some]
  decide +kernel

theorem EngineOptions.breakdown_read_back_iff_rack :
    ∃ b, Sample.rackPrices 4 = some [b] ∧ b.IsFinite ∧
      (Json.read? (Report.text [b.toJson.pretty])).bind Breakdown.read? = some b := by
  have hread : (Sample.rackPrices 4).map (fun prices => prices.map fun b =>
      (b.monthly.isFinite, b.oneTime.isFinite)) = some [(true, true)] := by
    decide +kernel
  obtain ⟨prices, hprices, hmap⟩ := Option.map_eq_some_iff.mp hread
  obtain ⟨b, rfl, hpair⟩ := List.map_eq_singleton_iff.mp hmap
  have hamounts := Prod.mk.inj hpair
  have hpriced := hprices
  simp only [Sample.rackPrices, Option.bind_eq_bind, Option.bind_eq_some_iff, Option.pure_def,
    Option.some.injEq] at hpriced
  obtain ⟨options, -, profile, -, resource, -, hprice⟩ := hpriced
  obtain ⟨hfinite, hdocument, htext, -⟩ :=
    options.breakdown_read_back_iff [profile] [resource] (hprice ▸ List.mem_singleton_self b)
  rw [if_pos hamounts] at hdocument
  refine ⟨b, hprices, hfinite.mpr hamounts, ?_⟩
  rw [htext, Option.bind_some, hdocument]

end Chargeback
