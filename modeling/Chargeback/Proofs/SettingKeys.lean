import Mathlib.Data.Fintype.Basic
import Chargeback.Proofs.Layers
import Chargeback.Proofs.Records
import Chargeback.Proofs.SettingValues

/-!
# The settings that hold a single value

Every such setting has a path of names in the document of the settings. Settings are read from a
document as soon as it holds a fitting value at the end of each of these paths, and they are these
values: nothing else in the document is looked at.
-/

namespace Chargeback

open Json Setting

namespace Settings

/-! ## Keys -/

/-- The settings that hold a single value. -/
inductive Key where
  | resources
  | profiles
  | currency
  | threshold
  | periods
  | cpu
  | memory
  | storage
  | storageDivisor
deriving DecidableEq

namespace Key

/-- All settings. -/
def all : List Key :=
  [resources, profiles, currency, threshold, periods, cpu, memory, storage, storageDivisor]

instance : Fintype Key where
  elems := all.toFinset
  complete := by
    intro k
    cases k <;> decide

/-- The names that lead to a setting. -/
def path : Key → List String
  | resources => ["resources_path"]
  | profiles => ["profiles_path"]
  | currency => ["currency"]
  | threshold => ["engine", "parallel_threshold"]
  | periods => ["engine", "allocation", "amortization_periods"]
  | cpu => ["engine", "allocation", "weights", "cpu"]
  | memory => ["engine", "allocation", "weights", "memory"]
  | storage => ["engine", "allocation", "weights", "storage"]
  | storageDivisor => ["engine", "allocation", "weights", "storage_divisor"]

/-- What a setting can hold. -/
def kind : Key → Kind
  | resources => .text
  | profiles => .text
  | currency => .text
  | threshold => .whole UInt64.size
  | periods => .whole UInt32.size
  | cpu => .number
  | memory => .number
  | storage => .number
  | storageDivisor => .number

/-- The value of a setting. -/
def value (s : Settings) : Key → Value
  | resources => .text s.resources
  | profiles => .text s.profiles
  | currency => .text s.currency
  | threshold => .whole s.engine.parallelThreshold
  | periods => .whole s.engine.allocation.periods
  | cpu => .number s.engine.allocation.weights.cpu
  | memory => .number s.engine.allocation.weights.memory
  | storage => .number s.engine.allocation.weights.storage
  | storageDivisor => .number s.engine.allocation.weights.storageDivisor

theorem isUsual_kind (k : Key) : k.kind.isUsual = true := by
  cases k <;> decide

theorem foldName_of_mem_path : ∀ (k : Key), ∀ name ∈ k.path, foldName name = name := by
  decide

end Key

/-! ## Reading what the layers leave -/

section Reading

variable {j : Json} {ι : Type}

/-- At the end of a path stands a value that is read as the given one. -/
def Holds (j : Json) (path : List String) (read : Json → Option ι) (x : ι) : Prop :=
  ∃ value, at? path j = some value ∧ read value = some x

theorem exists_lookup_of_at? {name : String} {path : List String} {value : Json}
    (h : at? (name :: path) j = some value) :
    ∃ fields inner, j = .obj fields ∧ fields.lookup name = some inner ∧
      at? path inner = some value := by
  cases j with
  | obj fields =>
    obtain ⟨inner, hinner, hat⟩ := Option.bind_eq_some_iff.mp h
    exact ⟨fields, inner, rfl, hinner, hat⟩
  | _ => cases h

theorem optional?_of_holds (hordered : j.Ordered) {name : String} {read : Json → Option ι} {x : ι}
    (h : Holds j [name] read x) (position : ℕ) (default : ι) :
    optional? j position [name] default read = some x := by
  obtain ⟨value, hat, hread⟩ := h
  obtain ⟨fields, inner, rfl, hlookup, hvalue⟩ := exists_lookup_of_at? hat
  obtain rfl : inner = value := Option.some.inj hvalue
  obtain ⟨hsorted, -⟩ := ordered_obj_iff.mp hordered
  have hnodup : (fields.map Prod.fst).Nodup :=
    List.pairwise_map.mpr (hsorted.imp fun hlt => String.ne_of_lt hlt)
  rw [optional?, slot?, filter_contains_of_mem hnodup (TextMap.mem_of_lookup_eq_some hlookup)]
  exact hread

/-- What stands behind a name holds at shorter paths what the document holds at longer ones. -/
theorem exists_behind (hordered : j.Ordered) {name : String} {path : List String}
    {read : Json → Option ι} {x : ι} (h : Holds j (name :: path) read x) :
    ∃ inner : Json, inner.Ordered ∧
      (∀ {κ : Type} {path : List String} {read : Json → Option κ} {x : κ},
        Holds j (name :: path) read x → Holds inner path read x) ∧
      ∀ {κ : Type} {read : Json → Option κ} {x : κ}, read inner = some x → Holds j [name] read x := by
  obtain ⟨value, hat, -⟩ := h
  obtain ⟨fields, inner, rfl, hlookup, -⟩ := exists_lookup_of_at? hat
  refine ⟨inner, (ordered_obj_iff.mp hordered).2 name inner hlookup, ?_, ?_⟩
  · rintro κ path read x ⟨v, hv, hread⟩
    exact ⟨v, (at?_of_lookup hlookup path).symm.trans hv, hread⟩
  · exact fun hread => ⟨inner, at?_of_lookup hlookup [], hread⟩

theorem Holds.of_map {κ : Type} {path : List String} {read : Json → Option ι} {f : ι → κ} {x : ι}
    (hf : f.Injective) (h : Holds j path (fun v => (read v).map f) (f x)) : Holds j path read x := by
  obtain ⟨v, hat, hread⟩ := h
  obtain ⟨y, hy, heq⟩ := Option.map_eq_some_iff.mp hread
  exact ⟨v, hat, hf heq ▸ hy⟩

theorem readWeights?_of_holds (hordered : j.Ordered) {w : Weights Float}
    (hcpu : Holds j ["cpu"] Setting.float? w.cpu)
    (hmemory : Holds j ["memory"] Setting.float? w.memory)
    (hstorage : Holds j ["storage"] Setting.float? w.storage)
    (hdivisor : Holds j ["storage_divisor"] Setting.float? w.storageDivisor) :
    readWeights? j = some w := by
  unfold readWeights?
  simp only [optional?_of_holds hordered hcpu, optional?_of_holds hordered hmemory,
    optional?_of_holds hordered hstorage, optional?_of_holds hordered hdivisor]
  rfl

theorem readAllocation?_of_holds (hordered : j.Ordered) {o : AllocationOptions Float}
    (hperiods : Holds j ["amortization_periods"] (Setting.natBelow? UInt32.size) o.periods)
    (hweights : Holds j ["weights"] readWeights? o.weights) : readAllocation? j = some o := by
  unfold readAllocation?
  simp only [optional?_of_holds hordered hperiods, optional?_of_holds hordered hweights]
  rfl

theorem readEngine?_of_holds (hordered : j.Ordered) {o : EngineOptions Float}
    (hallocation : Holds j ["allocation"] readAllocation? o.allocation)
    (hthreshold : Holds j ["parallel_threshold"] (Setting.natBelow? UInt64.size)
      o.parallelThreshold) : readEngine? j = some o := by
  unfold readEngine?
  simp only [optional?_of_holds hordered hallocation, optional?_of_holds hordered hthreshold]
  rfl

theorem read?_of_holds (hordered : j.Ordered) {s : Settings}
    (hresources : Holds j ["resources_path"] Setting.text? s.resources)
    (hprofiles : Holds j ["profiles_path"] Setting.text? s.profiles)
    (hcurrency : Holds j ["currency"] Setting.text? s.currency)
    (hengine : Holds j ["engine"] readEngine? s.engine) : read? j = some s := by
  unfold read?
  simp only [optional?_of_holds hordered hresources, optional?_of_holds hordered hprofiles,
    optional?_of_holds hordered hcurrency, optional?_of_holds hordered hengine]
  rfl

/-- Settings are read from a document that holds all their values. -/
theorem read?_of_forall_holds (hordered : j.Ordered) {s : Settings}
    (h : ∀ k : Key, Holds j k.path k.kind.read? (k.value s)) : read? j = some s := by
  have htext : Function.Injective Value.text := fun _ _ heq => Value.text.inj heq
  have hwhole : Function.Injective Value.whole := fun _ _ heq => Value.whole.inj heq
  have hnumber : Function.Injective Value.number := fun _ _ heq => Value.number.inj heq
  obtain ⟨engine, hengine, hin, hout⟩ := exists_behind hordered (h .cpu)
  obtain ⟨allocation, hallocation, hin', hout'⟩ := exists_behind hengine (hin (h .cpu))
  obtain ⟨weights, hweights, hin'', hout''⟩ := exists_behind hallocation (hin' (hin (h .cpu)))
  have hreadWeights : readWeights? weights = some s.engine.allocation.weights :=
    readWeights?_of_holds hweights (.of_map hnumber (hin'' (hin' (hin (h .cpu)))))
      (.of_map hnumber (hin'' (hin' (hin (h .memory)))))
      (.of_map hnumber (hin'' (hin' (hin (h .storage)))))
      (.of_map hnumber (hin'' (hin' (hin (h .storageDivisor)))))
  have hreadAllocation : readAllocation? allocation = some s.engine.allocation :=
    readAllocation?_of_holds hallocation (.of_map hwhole (hin' (hin (h .periods))))
      (hout'' hreadWeights)
  have hreadEngine : readEngine? engine = some s.engine :=
    readEngine?_of_holds hengine (hout' hreadAllocation) (.of_map hwhole (hin (h .threshold)))
  exact read?_of_holds hordered (.of_map htext (h .resources)) (.of_map htext (h .profiles))
    (.of_map htext (h .currency)) (hout hreadEngine)

/-- Values of the right kinds are the values of some settings. -/
theorem exists_settings {value : Key → Value}
    (h : ∀ k : Key, ∃ v, k.kind.read? v = some (value k)) :
    ∃ s : Settings, ∀ k : Key, k.value s = value k := by
  have hkind {α : Type} {read : Json → Option α} {f : α → Value} {x : Value}
      (hread : ∃ v, (read v).map f = some x) : ∃ y, f y = x := by
    obtain ⟨v, hv⟩ := hread
    obtain ⟨y, -, hy⟩ := Option.map_eq_some_iff.mp hv
    exact ⟨y, hy⟩
  obtain ⟨resources, hresources⟩ := hkind (h .resources)
  obtain ⟨profiles, hprofiles⟩ := hkind (h .profiles)
  obtain ⟨currency, hcurrency⟩ := hkind (h .currency)
  obtain ⟨parallelThreshold, hthreshold⟩ := hkind (h .threshold)
  obtain ⟨periods, hperiods⟩ := hkind (h .periods)
  obtain ⟨cpu, hcpu⟩ := hkind (h .cpu)
  obtain ⟨memory, hmemory⟩ := hkind (h .memory)
  obtain ⟨storage, hstorage⟩ := hkind (h .storage)
  obtain ⟨storageDivisor, hdivisor⟩ := hkind (h .storageDivisor)
  let weights : Weights Float := { cpu, memory, storage, storageDivisor }
  let engine : EngineOptions Float := { allocation := { periods, weights }, parallelThreshold }
  refine ⟨{ resources, profiles, currency, engine }, fun k => ?_⟩
  cases k <;> assumption

end Reading

end Settings

end Chargeback
