import Mathlib.Data.Option.Basic
import Chargeback.Profile.Basic
import Chargeback.Resource

/-!
# What has been read

A record is read as some value exactly if its document can be a record of this size and each field of
the value is what is read from its own field of the document. What is said about records that have been
read rests on these equivalences, and does not open the readers.
-/

namespace Chargeback

open Json

theorem Rate.read?_eq_some_iff {j : Json} {c : Rate Float} :
    Rate.read? j = some c ↔ j.isRecord 5 = true ∧
      j.optional? 0 ["name"] "" str? = some c.name ∧
      (j.optional? 1 ["type"] .unknown fun v => v.variant?.map RateBasis.ofName) = some c.basis ∧
      j.optional? 2 ["value"] 0.0 (lenient? lenientFloat) = some c.value ∧
      j.optional? 3 ["frequency", "unit"] "" str? = some c.frequency ∧
      j.optional? 4 ["category"] "" str? = some c.category := by
  simp only [read?, Option.bind_eq_bind, Option.bind_eq_some_iff, Option.pure_def,
    Option.some.injEq, Option.guard_eq_some']
  constructor
  · rintro ⟨⟨⟩, hsize, name, hname, basis, hbasis, value, hvalue, frequency, hfrequency, category,
      hcategory, rfl⟩
    exact ⟨hsize, hname, hbasis, hvalue, hfrequency, hcategory⟩
  · rintro ⟨hsize, hname, hbasis, hvalue, hfrequency, hcategory⟩
    exact ⟨⟨⟩, hsize, _, hname, _, hbasis, _, hvalue, _, hfrequency, _, hcategory, rfl⟩

theorem Hardware.read?_eq_some_iff {j : Json} {c : Hardware Float} :
    Hardware.read? j = some c ↔ j.isRecord 5 = true ∧
      j.optional? 0 ["name"] "" str? = some c.name ∧
      j.optional? 1 ["purchasePrice"] 0.0 (lenient? lenientFloat) = some c.purchasePrice ∧
      j.optional? 2 ["depreciationYears"] 0.0 (lenient? lenientFloat) = some c.depreciationYears ∧
      j.optional? 3 ["allocationMethod"] .perVm Division.read? = some c.division ∧
      j.optional? 4 ["category"] "" str? = some c.category := by
  simp only [read?, Option.bind_eq_bind, Option.bind_eq_some_iff, Option.pure_def,
    Option.some.injEq, Option.guard_eq_some']
  constructor
  · rintro ⟨⟨⟩, hsize, name, hname, price, hprice, years, hyears, division, hdivision,
      category, hcategory, rfl⟩
    exact ⟨hsize, hname, hprice, hyears, hdivision, hcategory⟩
  · rintro ⟨hsize, hname, hprice, hyears, hdivision, hcategory⟩
    exact ⟨⟨⟩, hsize, _, hname, _, hprice, _, hyears, _, hdivision, _, hcategory, rfl⟩

theorem Running.read?_eq_some_iff {j : Json} {c : Running Float} :
    Running.read? j = some c ↔ j.isRecord 4 = true ∧
      j.optional? 0 ["name"] "" str? = some c.name ∧
      j.optional? 1 ["monthlyCost"] 0.0 (lenient? lenientFloat) = some c.monthlyCost ∧
      j.optional? 2 ["allocationMethod"] .perVm Division.read? = some c.division ∧
      j.optional? 3 ["category"] "" str? = some c.category := by
  simp only [read?, Option.bind_eq_bind, Option.bind_eq_some_iff, Option.pure_def,
    Option.some.injEq, Option.guard_eq_some']
  constructor
  · rintro ⟨⟨⟩, hsize, name, hname, cost, hcost, division, hdivision, category, hcategory, rfl⟩
    exact ⟨hsize, hname, hcost, hdivision, hcategory⟩
  · rintro ⟨hsize, hname, hcost, hdivision, hcategory⟩
    exact ⟨⟨⟩, hsize, _, hname, _, hcost, _, hdivision, _, hcategory, rfl⟩

theorem SharedItems.read?_eq_some_iff {j : Json} {s : SharedItems Float} :
    SharedItems.read? j = some s ↔ j.isRecord 4 = true ∧
      j.optional? 0 ["hardware"] [] (list? Hardware.read?) = some s.hardware ∧
      j.optional? 1 ["operations"] [] (list? Running.read?) = some s.operations ∧
      j.optional? 2 ["facilities"] [] (list? Running.read?) = some s.facilities ∧
      j.optional? 3 ["software"] [] (list? Running.read?) = some s.software := by
  simp only [read?, Option.bind_eq_bind, Option.bind_eq_some_iff, Option.pure_def,
    Option.some.injEq, Option.guard_eq_some']
  constructor
  · rintro ⟨⟨⟩, hsize, hardware, hhardware, operations, hoperations, facilities, hfacilities,
      software, hsoftware, rfl⟩
    exact ⟨hsize, hhardware, hoperations, hfacilities, hsoftware⟩
  · rintro ⟨hsize, hhardware, hoperations, hfacilities, hsoftware⟩
    exact ⟨⟨⟩, hsize, _, hhardware, _, hoperations, _, hfacilities, _, hsoftware, rfl⟩

theorem Condition.read?_eq_some_iff {j : Json} {c : Condition} :
    Condition.read? j = some c ↔ j.isRecord 3 = true ∧
      (j.required? 0 ["field"] str?).map Field.parse = some c.field ∧
      (j.optional? 1 ["operator"] .unknown fun v => v.variant?.map Comparison.ofName) =
        some c.comparison ∧
      j.optional? 2 ["value"] "" (lenient? lenientText) = some c.value := by
  simp only [read?, Option.bind_eq_bind, Option.bind_eq_some_iff, Option.pure_def,
    Option.some.injEq, Option.guard_eq_some']
  constructor
  · rintro ⟨⟨⟩, hsize, field, hfield, comparison, hcomparison, value, hvalue, rfl⟩
    exact ⟨hsize, by rw [hfield, Option.map_some], hcomparison, hvalue⟩
  · rintro ⟨hsize, hfield, hcomparison, hvalue⟩
    obtain ⟨field, hfield, hparse⟩ := Option.map_eq_some_iff.mp hfield
    exact ⟨⟨⟩, hsize, field, hfield, _, hcomparison, _, hvalue, by rw [hparse]⟩

theorem RuleTree.readWithin?_succ_eq_some_iff {fuel : Nat} {j : Json} {t : RuleTree} :
    readWithin? (fuel + 1) j = some t ↔ j.isRecord 3 = true ∧
      (j.optional? 0 ["operator"] .and fun v => v.variant?.map Connective.ofName) =
        some t.connective ∧
      j.optional? 1 ["conditions"] [] (list? Condition.read?) = some t.conditions ∧
      j.optional? 2 ["groups"] [] (list? (readWithin? fuel)) = some t.groups := by
  simp only [readWithin?, Option.bind_eq_bind, Option.bind_eq_some_iff, Option.pure_def,
    Option.some.injEq, Option.guard_eq_some']
  constructor
  · rintro ⟨⟨⟩, hsize, connective, hconnective, conditions, hconditions, groups, hgroups, rfl⟩
    exact ⟨hsize, hconnective, hconditions, hgroups⟩
  · rintro ⟨hsize, hconnective, hconditions, hgroups⟩
    cases t
    exact ⟨⟨⟩, hsize, _, hconnective, _, hconditions, _, hgroups, rfl⟩

theorem Profile.read?_eq_some_iff {j : Json} {p : Profile Float} :
    Profile.read? j = some p ↔ j.isRecord 11 = true ∧
      j.optional? 0 ["id"] "" str? = some p.id ∧
      j.required? 1 ["name"] str? = some p.name ∧
      j.optional? 2 ["description"] "" str? = some p.description ∧
      j.optional? 3 ["status"] .draft Status.read? = some p.status ∧
      j.optional? 4 ["priority"] defaultPriority (natBelow? UInt32.size) = some p.priority ∧
      j.optional? 5 ["costModel"] .simple CostModel.read? = some p.model ∧
      j.optional? 6 ["rules"] .empty RuleTree.read? = some p.rules ∧
      j.optional? 7 ["costComponents"] [] (list? Rate.read?) = some p.rates ∧
      j.optional? 8 ["advancedCostComponents"] .empty SharedItems.read? = some p.shared ∧
      j.optional? 9 ["createdDate"] none (nullable? readInstant?) = some p.created ∧
      j.optional? 10 ["modifiedDate"] none (nullable? readInstant?) = some p.modified := by
  simp only [read?, Option.bind_eq_bind, Option.bind_eq_some_iff, Option.pure_def,
    Option.some.injEq, Option.guard_eq_some']
  constructor
  · rintro ⟨⟨⟩, hsize, id, hid, name, hname, description, hdescription, status, hstatus,
      priority, hpriority, model, hmodel, rules, hrules, rates, hrates, shared, hshared,
      created, hcreated, modified, hmodified, rfl⟩
    exact ⟨hsize, hid, hname, hdescription, hstatus, hpriority, hmodel, hrules, hrates, hshared,
      hcreated, hmodified⟩
  · rintro ⟨hsize, hid, hname, hdescription, hstatus, hpriority, hmodel, hrules, hrates, hshared,
      hcreated, hmodified⟩
    exact ⟨⟨⟩, hsize, _, hid, _, hname, _, hdescription, _, hstatus, _, hpriority, _, hmodel,
      _, hrules, _, hrates, _, hshared, _, hcreated, _, hmodified, rfl⟩

theorem Resource.read?_eq_some_iff {j : Json} {r : Resource Float} :
    Resource.read? j = some r ↔ j.isRecord 9 = true ∧
      j.required? 0 ["ResourceId", "id"] str? = some r.id ∧
      j.required? 1 ["ResourceName", "name"] str? = some r.name ∧
      j.optional? 2 ["ResourceType", "resource_type"] none (nullable? str?) = some r.kind ∧
      j.optional? 3 ["OwnerID", "owner"] "" str? = some r.owner ∧
      j.optional? 4 ["RegionName", "region"] "" str? = some r.region ∧
      j.optional? 5 ["CPU", "cpu_count"] 0.0 (lenient? lenientFloat) = some r.cpu ∧
      j.optional? 6 ["MemoryGB", "memory_gb"] 0.0 (lenient? lenientFloat) = some r.memory ∧
      j.optional? 7 ["StorageGB", "storage_gb"] 0.0 (lenient? lenientFloat) = some r.storage ∧
      j.optional? 8 ["Tags", "tags"] ∅ (lenient? Json.tags) = some r.tags := by
  simp only [read?, Option.bind_eq_bind, Option.bind_eq_some_iff, Option.pure_def,
    Option.some.injEq, Option.guard_eq_some']
  constructor
  · rintro ⟨⟨⟩, hsize, id, hid, name, hname, kind, hkind, owner, howner, region, hregion, cpu, hcpu,
      memory, hmemory, storage, hstorage, tags, htags, rfl⟩
    exact ⟨hsize, hid, hname, hkind, howner, hregion, hcpu, hmemory, hstorage, htags⟩
  · rintro ⟨hsize, hid, hname, hkind, howner, hregion, hcpu, hmemory, hstorage, htags⟩
    exact ⟨⟨⟩, hsize, _, hid, _, hname, _, hkind, _, howner, _, hregion, _, hcpu, _, hmemory,
      _, hstorage, _, htags, rfl⟩

end Chargeback
