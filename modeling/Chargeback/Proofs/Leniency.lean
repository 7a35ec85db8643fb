import Chargeback.Proofs.JsonParts
import Chargeback.Proofs.LenientNumbers
import Chargeback.Proofs.Readers
import Chargeback.Proofs.ResourceDocuments

/-!
# Lenient fields

In a document that is read as a profile or a resource, the value of a lenient field may be replaced by
any other value, and the name of an alternative by any text. The document is still read, and what it is
read as differs in this one field.

For every kind of record the replacements of its lenient parts are a relation of their own, between the
way to the part, the value that is put there, and what becomes of the record. That the reader of the
record follows these replacements is shown once for each kind, from the fields up to the whole document.
-/

namespace Chargeback

open Json

/-! ## Values -/

/-- The name of an alternative may be any text. -/
theorem follows_variant {ι : Type} (ofName : String → ι) (name : String) :
    Follows (fun v => v.variant?.map ofName) [] (.str name) fun _ => ofName name :=
  follows_nil rfl

theorem Division.follows (name : String) :
    Follows Division.read? [] (.str name) fun _ => .ofName name :=
  follows_nil rfl

theorem follows_lenient {ι : Type} {new : Json} (f : Json → ι) (h : new.isUsable = true) :
    Follows (lenient? f) [] new fun _ => f new :=
  follows_nil (if_pos h)

/-! ## Components -/

/-- A lenient field of a rate is replaced. -/
inductive Rate.Replacement : List Slot → Json → (Rate Float → Rate Float) → Prop where
  | basis (name : String) :
    Replacement [.field 1 ["type"]] (.str name) fun c => { c with basis := .ofName name }
  | value {new : Json} (usable : new.isUsable = true) :
    Replacement [.field 2 ["value"]] new fun c => { c with value := lenientFloat new }

theorem Rate.Replacement.follows {path : List Slot} {new : Json}
    {change : Rate Float → Rate Float} (h : Replacement path new change) :
    Follows Rate.read? path new change := by
  intro j c hread hpart
  obtain ⟨hsize, hname, hbasis, hvalue, hfrequency, hcategory⟩ := read?_eq_some_iff.mp hread
  cases h with
  | basis text =>
    have hnew := (follows_variant RateBasis.ofName text).optional hbasis hpart
    simp (disch := decide) [read?_eq_some_iff, hsize, hname, hnew, hvalue, hfrequency, hcategory]
  | value usable =>
    have hnew := (follows_lenient lenientFloat usable).optional hvalue hpart
    simp (disch := decide) [read?_eq_some_iff, hsize, hname, hbasis, hnew, hfrequency, hcategory]

/-- A lenient field of a hardware item is replaced. -/
inductive Hardware.Replacement : List Slot → Json → (Hardware Float → Hardware Float) → Prop where
  | price {new : Json} (usable : new.isUsable = true) :
    Replacement [.field 1 ["purchasePrice"]] new
      fun c => { c with purchasePrice := lenientFloat new }
  | years {new : Json} (usable : new.isUsable = true) :
    Replacement [.field 2 ["depreciationYears"]] new
      fun c => { c with depreciationYears := lenientFloat new }
  | division (name : String) :
    Replacement [.field 3 ["allocationMethod"]] (.str name)
      fun c => { c with division := .ofName name }

theorem Hardware.Replacement.follows {path : List Slot} {new : Json}
    {change : Hardware Float → Hardware Float} (h : Replacement path new change) :
    Follows Hardware.read? path new change := by
  intro j c hread hpart
  obtain ⟨hsize, hname, hprice, hyears, hdivision, hcategory⟩ := read?_eq_some_iff.mp hread
  cases h with
  | price usable =>
    have hnew := (follows_lenient lenientFloat usable).optional hprice hpart
    simp (disch := decide) [read?_eq_some_iff, hsize, hname, hnew, hyears, hdivision, hcategory]
  | years usable =>
    have hnew := (follows_lenient lenientFloat usable).optional hyears hpart
    simp (disch := decide) [read?_eq_some_iff, hsize, hname, hprice, hnew, hdivision, hcategory]
  | division text =>
    have hnew := (Division.follows text).optional hdivision hpart
    simp (disch := decide) [read?_eq_some_iff, hsize, hname, hprice, hyears, hnew, hcategory]

/-- A lenient field of an item with a monthly cost is replaced. -/
inductive Running.Replacement : List Slot → Json → (Running Float → Running Float) → Prop where
  | cost {new : Json} (usable : new.isUsable = true) :
    Replacement [.field 1 ["monthlyCost"]] new fun c => { c with monthlyCost := lenientFloat new }
  | division (name : String) :
    Replacement [.field 2 ["allocationMethod"]] (.str name)
      fun c => { c with division := .ofName name }

theorem Running.Replacement.follows {path : List Slot} {new : Json}
    {change : Running Float → Running Float} (h : Replacement path new change) :
    Follows Running.read? path new change := by
  intro j c hread hpart
  obtain ⟨hsize, hname, hcost, hdivision, hcategory⟩ := read?_eq_some_iff.mp hread
  cases h with
  | cost usable =>
    have hnew := (follows_lenient lenientFloat usable).optional hcost hpart
    simp (disch := decide) [read?_eq_some_iff, hsize, hname, hnew, hdivision, hcategory]
  | division text =>
    have hnew := (Division.follows text).optional hdivision hpart
    simp (disch := decide) [read?_eq_some_iff, hsize, hname, hcost, hnew, hcategory]

/-- A lenient field of a shared item is replaced. -/
inductive SharedItems.Replacement :
    List Slot → Json → (SharedItems Float → SharedItems Float) → Prop where
  | hardware {path : List Slot} {new : Json} {change : Hardware Float → Hardware Float} (i : Nat)
    (h : Hardware.Replacement path new change) :
    Replacement (.field 0 ["hardware"] :: .item i :: path) new
      fun s => { s with hardware := s.hardware.modify i change }
  | operations {path : List Slot} {new : Json} {change : Running Float → Running Float} (i : Nat)
    (h : Running.Replacement path new change) :
    Replacement (.field 1 ["operations"] :: .item i :: path) new
      fun s => { s with operations := s.operations.modify i change }
  | facilities {path : List Slot} {new : Json} {change : Running Float → Running Float} (i : Nat)
    (h : Running.Replacement path new change) :
    Replacement (.field 2 ["facilities"] :: .item i :: path) new
      fun s => { s with facilities := s.facilities.modify i change }
  | software {path : List Slot} {new : Json} {change : Running Float → Running Float} (i : Nat)
    (h : Running.Replacement path new change) :
    Replacement (.field 3 ["software"] :: .item i :: path) new
      fun s => { s with software := s.software.modify i change }

theorem SharedItems.Replacement.follows {path : List Slot} {new : Json}
    {change : SharedItems Float → SharedItems Float} (h : Replacement path new change) :
    Follows SharedItems.read? path new change := by
  intro j s hread hpart
  obtain ⟨hsize, hhardware, hoperations, hfacilities, hsoftware⟩ := read?_eq_some_iff.mp hread
  cases h with
  | hardware i h =>
    have hnew := (h.follows.item i).optional hhardware hpart
    simp (disch := decide) [read?_eq_some_iff, hsize, hnew, hoperations, hfacilities, hsoftware]
  | operations i h =>
    have hnew := (h.follows.item i).optional hoperations hpart
    simp (disch := decide) [read?_eq_some_iff, hsize, hhardware, hnew, hfacilities, hsoftware]
  | facilities i h =>
    have hnew := (h.follows.item i).optional hfacilities hpart
    simp (disch := decide) [read?_eq_some_iff, hsize, hhardware, hoperations, hnew, hsoftware]
  | software i h =>
    have hnew := (h.follows.item i).optional hsoftware hpart
    simp (disch := decide) [read?_eq_some_iff, hsize, hhardware, hoperations, hfacilities, hnew]

/-! ## Rules -/

/-- A lenient field of a condition is replaced. -/
inductive Condition.Replacement : List Slot → Json → (Condition → Condition) → Prop where
  | comparison (name : String) :
    Replacement [.field 1 ["operator"]] (.str name) fun c => { c with comparison := .ofName name }
  | value {new : Json} (usable : new.isUsable = true) :
    Replacement [.field 2 ["value"]] new fun c => { c with value := lenientText new }

theorem Condition.Replacement.follows {path : List Slot} {new : Json}
    {change : Condition → Condition} (h : Replacement path new change) :
    Follows Condition.read? path new change := by
  intro j c hread hpart
  obtain ⟨hsize, hfield, hcomparison, hvalue⟩ := read?_eq_some_iff.mp hread
  cases h with
  | comparison text =>
    have hnew := (follows_variant Comparison.ofName text).optional hcomparison hpart
    simp (disch := decide) [read?_eq_some_iff, hsize, hfield, hnew, hvalue]
  | value usable =>
    have hnew := (follows_lenient lenientText usable).optional hvalue hpart
    simp (disch := decide) [read?_eq_some_iff, hsize, hfield, hcomparison, hnew]

/-- An item is not as deep as its list. -/
theorem depth_lt_of_mem_arr {items : List Json} {j : Json} (h : j ∈ items) :
    j.depth < (Json.arr items).depth := by
  have hitems := (@RuleTree.depthItems_map_le_iff Json (fun j => j) items _).mp le_rfl j h
  rw [List.map_id'] at hitems
  rw [depth]
  omega

theorem depth_le_depthFields {fields : List (String × Json)} {f : String × Json}
    (h : f ∈ fields) : f.2.depth ≤ depthFields fields := by
  induction fields with
  | nil => cases h
  | cons g rest ih =>
    rw [depthFields]
    rcases List.mem_cons.mp h with rfl | h
    · exact Nat.le_max_left _ _
    · exact (ih h).trans (Nat.le_max_right _ _)

/-- The value of a field is not as deep as its record. -/
theorem depth_lt_of_slot? {j value : Json} {position : Nat} {names : List String}
    (h : slot? position names j = some (some value)) : value.depth < j.depth := by
  rcases mem_of_slot? h with ⟨items, rfl, hvalue⟩ | ⟨fields, f, rfl, hf, rfl⟩
  · exact depth_lt_of_mem_arr hvalue
  · rw [depth]
    exact Nat.lt_succ_of_le (depth_le_depthFields hf)

namespace RuleTree

/-- A lenient part of a tree is replaced, at any depth. -/
inductive Replacement : List Slot → Json → (RuleTree → RuleTree) → Prop where
  | connective (name : String) :
    Replacement [.field 0 ["operator"]] (.str name) fun t => { t with connective := .ofName name }
  | condition {path : List Slot} {new : Json} {change : Condition → Condition} (i : Nat)
    (h : Condition.Replacement path new change) :
    Replacement (.field 1 ["conditions"] :: .item i :: path) new
      fun t => { t with conditions := t.conditions.modify i change }
  | group {path : List Slot} {new : Json} {change : RuleTree → RuleTree} (i : Nat)
    (h : Replacement path new change) :
    Replacement (.field 2 ["groups"] :: .item i :: path) new
      fun t => { t with groups := t.groups.modify i change }

/-- However deep a tree may be, it is read as it is within any number of levels that its document does
not exceed. -/
theorem readWithin?_of_depth_lt {fuel enough : Nat} {j : Json} {t : RuleTree}
    (h : readWithin? fuel j = some t) (hdepth : j.depth < enough) :
    readWithin? enough j = some t := by
  induction fuel generalizing j t enough with
  | zero => cases h
  | succ fuel ih =>
    obtain ⟨enough, rfl⟩ : ∃ n, enough = n + 1 := ⟨enough - 1, by omega⟩
    obtain ⟨hsize, hconnective, hconditions, hgroups⟩ := readWithin?_succ_eq_some_iff.mp h
    refine readWithin?_succ_eq_some_iff.mpr ⟨hsize, hconnective, hconditions, ?_⟩
    rw [optional?] at hgroups ⊢
    rcases hslot : slot? 2 ["groups"] j with _ | _ | value
    · rw [hslot] at hgroups
      cases hgroups
    · rw [hslot] at hgroups
      exact hgroups
    · rw [hslot] at hgroups
      have hvalue := depth_lt_of_slot? hslot
      cases value with
      | arr items =>
        refine mapM_mono hgroups fun item hitem t ht => ih ht ?_
        have hitem := depth_lt_of_mem_arr hitem
        omega
      | _ => cases hgroups

/-- A replacement is followed within any number of levels: what a child follows, the tree follows within
one level more. -/
theorem Replacement.followsWithin (fuel : Nat) {path : List Slot} {new : Json}
    {change : RuleTree → RuleTree} (h : Replacement path new change) :
    Follows (readWithin? fuel) path new change := by
  induction fuel generalizing path new change with
  | zero =>
    intro j t hread
    cases hread
  | succ fuel ih =>
    intro j t hread hpart
    obtain ⟨hsize, hconnective, hconditions, hgroups⟩ := readWithin?_succ_eq_some_iff.mp hread
    cases h with
    | connective text =>
      have hnew := (follows_variant Connective.ofName text).optional hconnective hpart
      simp (disch := decide) [readWithin?_succ_eq_some_iff, hsize, hnew, hconditions, hgroups]
    | condition i h =>
      have hnew := (h.follows.item i).optional hconditions hpart
      simp (disch := decide) [readWithin?_succ_eq_some_iff, hsize, hconnective, hnew, hgroups]
    | group i h =>
      have hnew := ((ih h).item i).optional hgroups hpart
      simp (disch := decide) [readWithin?_succ_eq_some_iff, hsize, hconnective, hconditions, hnew]

/-- The new value may be deeper than the old one, or less deep; the reader goes as deep as it must. -/
theorem Replacement.follows {path : List Slot} {new : Json}
    {change : RuleTree → RuleTree} (h : Replacement path new change) :
    Follows RuleTree.read? path new change :=
  fun j _ hread hpart =>
    readWithin?_of_depth_lt (h.followsWithin (j.depth + 1) j _ hread hpart) (Nat.lt_succ_self _)

end RuleTree

/-! ## Profiles and resources -/

/-- A lenient field is replaced, anywhere in a profile. -/
inductive Profile.Replacement : List Slot → Json → (Profile Float → Profile Float) → Prop where
  | rules {path : List Slot} {new : Json} {change : RuleTree → RuleTree}
    (h : RuleTree.Replacement path new change) :
    Replacement (.field 6 ["rules"] :: path) new fun p => { p with rules := change p.rules }
  | rate {path : List Slot} {new : Json} {change : Rate Float → Rate Float} (i : Nat)
    (h : Rate.Replacement path new change) :
    Replacement (.field 7 ["costComponents"] :: .item i :: path) new
      fun p => { p with rates := p.rates.modify i change }
  | shared {path : List Slot} {new : Json} {change : SharedItems Float → SharedItems Float}
    (h : SharedItems.Replacement path new change) :
    Replacement (.field 8 ["advancedCostComponents"] :: path) new
      fun p => { p with shared := change p.shared }

theorem Profile.Replacement.follows {path : List Slot} {new : Json}
    {change : Profile Float → Profile Float} (h : Replacement path new change) :
    Follows Profile.read? path new change := by
  intro j p hread hpart
  obtain ⟨hsize, hid, hname, hdescription, hstatus, hpriority, hmodel, hrules, hrates, hshared,
    hcreated, hmodified⟩ :=
    read?_eq_some_iff.mp hread
  cases h with
  | rules h =>
    have hnew := h.follows.optional hrules hpart
    simp (disch := decide) [read?_eq_some_iff, hsize, hid, hname, hdescription, hstatus, hpriority,
      hmodel, hnew, hrates, hshared, hcreated, hmodified]
  | rate i h =>
    have hnew := (h.follows.item i).optional hrates hpart
    simp (disch := decide) [read?_eq_some_iff, hsize, hid, hname, hdescription, hstatus, hpriority,
      hmodel, hrules, hnew, hshared, hcreated, hmodified]
  | shared h =>
    have hnew := h.follows.optional hshared hpart
    simp (disch := decide) [read?_eq_some_iff, hsize, hid, hname, hdescription, hstatus, hpriority,
      hmodel, hrules, hrates, hnew, hcreated, hmodified]

/-- A lenient field of a resource is replaced. -/
inductive Resource.Replacement : List Slot → Json → (Resource Float → Resource Float) → Prop where
  | cpu {new : Json} (usable : new.isUsable = true) :
    Replacement [.field 5 ["CPU", "cpu_count"]] new fun r => { r with cpu := lenientFloat new }
  | memory {new : Json} (usable : new.isUsable = true) :
    Replacement [.field 6 ["MemoryGB", "memory_gb"]] new
      fun r => { r with memory := lenientFloat new }
  | storage {new : Json} (usable : new.isUsable = true) :
    Replacement [.field 7 ["StorageGB", "storage_gb"]] new
      fun r => { r with storage := lenientFloat new }
  | tags {new : Json} (usable : new.isUsable = true) :
    Replacement [.field 8 ["Tags", "tags"]] new fun r => { r with tags := Json.tags new }

theorem Resource.Replacement.follows {path : List Slot} {new : Json}
    {change : Resource Float → Resource Float} (h : Replacement path new change) :
    Follows Resource.read? path new change := by
  intro j r hread hpart
  obtain ⟨hsize, hid, hname, hkind, howner, hregion, hcpu, hmemory, hstorage, htags⟩ :=
    read?_eq_some_iff.mp hread
  cases h with
  | cpu usable =>
    have hnew := (follows_lenient lenientFloat usable).optional hcpu hpart
    simp (disch := decide) [read?_eq_some_iff, hsize, hid, hname, hkind, howner, hregion, hnew,
      hmemory, hstorage, htags]
  | memory usable =>
    have hnew := (follows_lenient lenientFloat usable).optional hmemory hpart
    simp (disch := decide) [read?_eq_some_iff, hsize, hid, hname, hkind, howner, hregion, hcpu,
      hnew, hstorage, htags]
  | storage usable =>
    have hnew := (follows_lenient lenientFloat usable).optional hstorage hpart
    simp (disch := decide) [read?_eq_some_iff, hsize, hid, hname, hkind, howner, hregion, hcpu,
      hmemory, hnew, htags]
  | tags usable =>
    have hnew := (follows_lenient Json.tags usable).optional htags hpart
    simp (disch := decide) [read?_eq_some_iff, hsize, hid, hname, hkind, howner, hregion, hcpu,
      hmemory, hstorage, hnew]

/-! ## Documents -/

/-- In a document that is read as a profile or a resource, the value of a lenient field may be replaced
by any value, and the name of an alternative by any text: the document is still read, and what it is
read as differs in this field only. A lenient number is the finite number that is given, or zero if
there is none. -/
theorem lenient_fields_never_reject :
    (∀ (path : List Slot) (new : Json) (change : Profile Float → Profile Float),
      Profile.Replacement path new change → ∀ (document : Json) (p : Profile Float),
        Profile.read? document = some p → (partAt? path document).isSome = true →
          Profile.read? (replaceAt new path document) = some (change p)) ∧
    (∀ (path : List Slot) (new : Json) (change : Resource Float → Resource Float),
      Resource.Replacement path new change → ∀ (document : Json) (r : Resource Float),
        Resource.read? document = some r → (partAt? path document).isSome = true →
          Resource.read? (replaceAt new path document) = some (change r)) ∧
    ∀ v, Printable v →
      (∀ x, v.Gives x → x.isFinite = true → lenientFloat v = x) ∧
        ((∀ x, v.Gives x → x.isFinite = false) → lenientFloat v = 0.0) := by
  refine ⟨fun _ _ _ h => h.follows, fun _ _ _ h => h.follows, fun v hv => ⟨fun x => ?_, ?_⟩⟩
  · exact lenientFloat_of_gives
  · exact lenientFloat_of_forall_gives hv

namespace Sample

/-- The way to the value of a condition in a child tree. -/
def nestedValue : List Slot :=
  [.field 6 ["rules"], .field 2 ["groups"], .item 0, .field 1 ["conditions"], .item 1,
    .field 2 ["value"]]

/-- A value that no condition compares with. -/
def oddValue : Json := .arr [.null, .obj [("deep", .arr [.arr []])]]

/-- Half of ten, as people may type it. -/
def typedNumber : Number.FreeNumeral where
  sign := .plus
  whole := []
  hasPoint := true
  places := ['5']
  power := some ⟨'E', .absent, ['1'], .inr rfl, List.cons_ne_nil _ _, List.forall_mem_singleton.mpr rfl⟩
  isDigit_whole := List.forall_mem_nil _
  isDigit_places := List.forall_mem_singleton.mpr rfl
  hasDigits := fun h => List.cons_ne_nil _ _ h.2
  places_eq_nil := fun h => absurd h (by decide)

end Sample

theorem lenient_fields_never_reject_loose :
    (∃ p, Profile.read? Sample.looseDocument = some p ∧
      Profile.read? (replaceAt Sample.oddValue Sample.nestedValue Sample.looseDocument) =
        some { p with rules := { p.rules with groups := p.rules.groups.modify 0 fun t =>
          { t with conditions := t.conditions.modify 1 fun c =>
            { c with value := lenientText Sample.oddValue } } } }) ∧
    (∃ r, Resource.read? Sample.looseResource = some r ∧
      Resource.read? (replaceAt (.str " +.5E1") [.field 5 ["CPU", "cpu_count"]] Sample.looseResource) =
        some { r with cpu := lenientFloat (.str " +.5E1") }) ∧
    lenientFloat (.str " +.5E1") = Sample.typedNumber.decimal.toFloat ∧
      lenientFloat (.bool true) = 0.0 := by
  obtain ⟨hprofile, hresource, hnumber⟩ := lenient_fields_never_reject
  refine ⟨?_, ?_, ?_, ?_⟩
  · have hread : (Profile.read? Sample.looseDocument).isSome = true := by decide +kernel
    obtain ⟨p, hp⟩ := Option.isSome_iff_exists.mp hread
    exact ⟨p, hp, hprofile Sample.nestedValue Sample.oddValue _
      (.rules (.group 0 (.condition 1 (.value rfl)))) _ p hp (by decide +kernel)⟩
  · have hread : (Resource.read? Sample.looseResource).isSome = true := by decide +kernel
    obtain ⟨r, hr⟩ := Option.isSome_iff_exists.mp hread
    exact ⟨r, hr, hresource _ _ _ (.cpu rfl) _ r hr (by decide +kernel)⟩
  · have hspelled : Sample.typedNumber.text = Text.trimChars " +.5E1".toList := by decide +kernel
    exact (hnumber _ (.str _)).1 _ (.text _ _ hspelled) (by decide +kernel)
  · refine (hnumber _ (.bool true)).2 fun x hx => ?_
    cases hx

end Chargeback
