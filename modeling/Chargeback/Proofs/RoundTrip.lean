import Chargeback.Proofs.Documents
import Chargeback.Proofs.Fields
import Chargeback.Proofs.JsonValues
import Chargeback.Proofs.Readers

/-!
# What has been read is written and read again

A reader accepts more documents than are ever written: names have several spellings, numbers may be
texts, fields may be missing, and what nobody knows is unknown. Reading gives each of them one form. This
form is written, and the reader gives it back as it is, so that a profile never changes by being stored.

The proof goes through the parts of a document. For every part, whatever is read from a value has a
document that is read as the same (`Recovers`); a record has the property because its fields have it, or
take a default whose own document is read as this default. Rule trees are read within a height, which is
the height of the tree at most, and the induction goes over it.
-/

namespace Chargeback

open Json

/-! ## Lists and fields -/

/-- Whatever is read from a value is read again from its document. -/
def Recovers {ι : Type} (read : Json → Option ι) (toJson : ι → Json) : Prop :=
  ∀ j x, InRange j → read j = some x → read (toJson x) = some x

section Parts

variable {ι : Type} {read : Json → Option ι} {j : Json} {position : Nat} {names : List String}
  {default x : ι}

/-- Every item of a list has been read from a part of the value. -/
theorem exists_inRange_of_mem_list? {l : List ι} (hj : InRange j) (h : list? read j = some l)
    (hx : x ∈ l) : ∃ item, InRange item ∧ read item = some x := by
  obtain ⟨items, rfl, item, hitem, hread⟩ := exists_of_mem_list? h hx
  cases hj with
  | arr parts => exact ⟨item, parts item hitem, hread⟩

/-- Every item of a list in a field that may be missing has been read from a value. -/
theorem exists_of_mem_field {l : List ι} (h : optional? j position names [] (list? read) = some l)
    (hx : x ∈ l) : ∃ item, read item = some x := by
  rcases optional?_eq_some h with rfl | ⟨value, -, hvalue⟩
  · cases hx
  · obtain ⟨-, -, item, -, hread⟩ := exists_of_mem_list? hvalue hx
    exact ⟨item, hread⟩

variable {toJson : ι → Json} (hrecovers : Recovers read toJson)

include hrecovers in
theorem Recovers.list : Recovers (list? read) (ofList toJson) := by
  intro j l hj h
  refine list?_ofList fun x hx => ?_
  obtain ⟨item, hitem, hread⟩ := exists_inRange_of_mem_list? hj h hx
  exact hrecovers item x hitem hread

include hrecovers in
theorem Recovers.optional (hdefault : read (toJson default) = some default) (hj : InRange j)
    (h : optional? j position names default read = some x) : read (toJson x) = some x := by
  rcases optional?_eq_some h with rfl | ⟨value, hslot, hvalue⟩
  · exact hdefault
  · exact hrecovers value x (hj.of_slot? hslot) hvalue

end Parts

/-! ## Numbers -/

theorem isFinite_floatOfInt {n : Int} (least : -2 ^ 63 ≤ n) (most : n < 2 ^ 64) :
    (floatOfInt n).isFinite = true := by
  have hmagnitude : n.natAbs < 2 ^ 64 := by omega
  have hbelow : (n.natAbs : ℚ) < Number.overflow :=
    lt_trans (by exact_mod_cast hmagnitude) Number.two_pow_lt_overflow
  refine Number.isFinite_nearest _ Nat.one_pos ?_
  rwa [Nat.cast_one, div_one]

theorem isFinite_zero : (0.0 : Float).isFinite = true := by decide

/-- Whatever a lenient number is read from, it is finite. -/
theorem isFinite_lenientFloat {j : Json} (hj : InRange j) : (lenientFloat j).isFinite = true := by
  cases hj with
  | int least most => exact isFinite_floatOfInt least most
  | float x =>
    rw [lenientFloat]
    split
    · assumption
    · exact isFinite_zero
  | str s =>
    rw [lenientFloat]
    cases hparse : Scalar.parse? (α := Float) s with
    | none => exact isFinite_zero
    | some x => exact Number.isFinite_of_parse? hparse
  | _ => exact isFinite_zero

theorem lenient?_ofFloat {x : Float} (hx : x.isFinite = true) :
    lenient? lenientFloat (ofFloat x) = some x := by
  rw [ofFloat, if_pos hx, lenient?, if_pos (by rfl), lenientFloat, if_pos hx]

theorem recovers_lenientFloat : Recovers (lenient? lenientFloat) ofFloat := by
  intro j x hj h
  rw [lenient?] at h
  split at h
  · cases h
    exact lenient?_ofFloat (isFinite_lenientFloat hj)
  · cases h

/-- A number that may be missing is zero then, and zero is read back. -/
theorem lenient?_ofFloat_of_optional? {j : Json} (hj : InRange j) {position : Nat}
    {names : List String} {x : Float}
    (h : optional? j position names 0.0 (lenient? lenientFloat) = some x) :
    lenient? lenientFloat (ofFloat x) = some x :=
  recovers_lenientFloat.optional (lenient?_ofFloat isFinite_zero) hj h

/-! ## Components -/

theorem RateBasis.ofName_name (b : RateBasis) : ofName b.name = b := by
  cases b <;> rfl

theorem Division.read?_name (d : Division) : Division.read? (.str d.name) = some d := by
  cases d <;> rfl

theorem Rate.recovers : Recovers Rate.read? Rate.toJson := by
  intro j c hj h
  obtain ⟨-, -, -, hvalue, -, -⟩ := Rate.read?_eq_some_iff.mp h
  have hagain := lenient?_ofFloat_of_optional? hj hvalue
  simp [Rate.read?, Rate.toJson, isRecord, optional?, slot?, str?, variant?, RateBasis.ofName_name,
    hagain]

theorem Hardware.recovers : Recovers Hardware.read? Hardware.toJson := by
  intro j c hj h
  obtain ⟨-, -, hprice, hyears, -, -⟩ := Hardware.read?_eq_some_iff.mp h
  have hpriceAgain := lenient?_ofFloat_of_optional? hj hprice
  have hyearsAgain := lenient?_ofFloat_of_optional? hj hyears
  simp [Hardware.read?, Hardware.toJson, isRecord, optional?, slot?, str?, Division.read?_name,
    hpriceAgain, hyearsAgain]

theorem Running.recovers : Recovers Running.read? Running.toJson := by
  intro j c hj h
  obtain ⟨-, -, hcost, -, -⟩ := Running.read?_eq_some_iff.mp h
  have hagain := lenient?_ofFloat_of_optional? hj hcost
  simp [Running.read?, Running.toJson, isRecord, optional?, slot?, str?, Division.read?_name, hagain]

theorem SharedItems.recovers : Recovers SharedItems.read? SharedItems.toJson := by
  intro j s hj h
  obtain ⟨-, hhardware, hoperations, hfacilities, hsoftware⟩ := SharedItems.read?_eq_some_iff.mp h
  have hhardwareAgain := Hardware.recovers.list.optional rfl hj hhardware
  have hoperationsAgain := Running.recovers.list.optional rfl hj hoperations
  have hfacilitiesAgain := Running.recovers.list.optional rfl hj hfacilities
  have hsoftwareAgain := Running.recovers.list.optional rfl hj hsoftware
  simp [SharedItems.read?, SharedItems.toJson, isRecord, optional?, slot?, hhardwareAgain,
    hoperationsAgain, hfacilitiesAgain, hsoftwareAgain]

/-! ## Rule trees -/

theorem Comparison.ofName_name (c : Comparison) : ofName c.name = c := by
  cases c <;> rfl

/-- Nothing is asked of the value here: whatever it is, what is read from it are texts. -/
theorem Condition.read?_toJson {j : Json} {c : Condition} (h : Condition.read? j = some c) :
    Condition.read? c.toJson = some c := by
  obtain ⟨-, hfield, -, -⟩ := Condition.read?_eq_some_iff.mp h
  obtain ⟨raw, -, hraw⟩ := Option.map_eq_some_iff.mp hfield
  have hparse : Field.parse c.field.text = c.field := by rw [← hraw, Field.parse_text_parse]
  simp [Condition.read?, Condition.toJson, isRecord, required?, optional?, slot?, str?, variant?,
    lenient?, isUsable, lenientText, Comparison.ofName_name, hparse]

namespace RuleTree

/-- A tree that has been read is read again within any height that is not below its own. -/
theorem readWithin?_toJson {fuel : Nat} {j : Json} {t : RuleTree}
    (h : readWithin? fuel j = some t) {enough : Nat} (henough : t.height ≤ enough) :
    readWithin? enough t.toJson = some t := by
  induction fuel generalizing j t enough with
  | zero => cases h
  | succ fuel ih =>
    obtain ⟨connective, conditions, groups⟩ := t
    obtain ⟨-, -, hconditions, hgroups⟩ := readWithin?_succ_eq_some_iff.mp h
    obtain ⟨enough, rfl⟩ : ∃ n, enough = n + 1 := ⟨enough - 1, by rw [height] at henough; omega⟩
    rw [height_le_succ_iff] at henough
    have hconditionsAgain :
        list? Condition.read? (ofList Condition.toJson conditions) = some conditions := by
      refine list?_ofList fun c hc => ?_
      obtain ⟨part, hread⟩ := exists_of_mem_field hconditions hc
      exact Condition.read?_toJson hread
    have hgroupsAgain : list? (readWithin? enough) (ofList toJson groups) = some groups := by
      refine list?_ofList fun t ht => ?_
      obtain ⟨part, hread⟩ := exists_of_mem_field hgroups ht
      exact ih hread (henough t ht)
    rw [toJson_eq, readWithin?_obj, hconditionsAgain, hgroupsAgain]
    by_cases hleaf : groups = []
    · simp [hleaf]
    · simp [hleaf]

theorem read?_toJson {j : Json} {t : RuleTree} (h : RuleTree.read? j = some t) :
    RuleTree.read? t.toJson = some t := by
  have hheight : t.height ≤ t.toJson.depth := (depth_toJson_le_iff_height_le _ t).mp (by omega)
  exact readWithin?_toJson h (by omega)

theorem recovers : Recovers RuleTree.read? RuleTree.toJson := fun _ _ _ => read?_toJson

end RuleTree

/-! ## Profiles -/

namespace Profile

/-- The parts of a profile are read back from their own documents. -/
structure IsRecoverable (p : Profile Float) : Prop where
  priority : p.priority < UInt32.size
  rules : RuleTree.read? p.rules.toJson = some p.rules
  rates : list? Rate.read? (ofList Rate.toJson p.rates) = some p.rates
  shared : SharedItems.read? p.shared.toJson = some p.shared

theorem isRecoverable_of_read? {j : Json} (hj : InRange j) {p : Profile Float}
    (h : Profile.read? j = some p) : p.IsRecoverable := by
  obtain ⟨-, hrules, hrates, hshared⟩ := parts_of_read? h
  exact ⟨priority_lt_of_read? h, RuleTree.recovers.optional rfl hj hrules,
    Rate.recovers.list.optional rfl hj hrates, SharedItems.recovers.optional rfl hj hshared⟩

/-- A profile is read back from its document if its parts are. -/
theorem IsRecoverable.read?_toJson {p : Profile Float} (hp : p.IsRecoverable) :
    Profile.read? p.toJson = some p := by
  have heq := @read?_seenThrough (fun j => j) (fun _ => rfl) (fun _ => rfl) p hp.priority _ _
    hp.rates hp.shared
  rw [seenThrough_self, hp.rules] at heq
  rw [toJson_eq_obj, heq]
  rfl

/-- From whatever document a profile has been read, its own document is a value again, and reading this
document gives the same profile, and so the same document. -/
theorem read?_toJson_of_read? {document : Json} (hdocument : Printable document)
    {p : Profile Float} (h : Profile.read? document = some p) :
    Printable p.toJson ∧ Profile.read? p.toJson = some p ∧
      (Profile.read? p.toJson).map toJson = some p.toJson := by
  have hagain : Profile.read? p.toJson = some p :=
    (isRecoverable_of_read? hdocument.inRange h).read?_toJson
  refine ⟨printable_toJson (priority_lt_of_read? h), hagain, ?_⟩
  rw [hagain, Option.map_some]

end Profile

namespace Sample

/-- A document that spells most things in another way than they are written: other names, numbers in
texts, a comparison and a division that nobody knows, components by position, and missing fields. -/
def looseDocument : Json :=
  .obj [("name", .str " Web "), ("status", .str "in-review"), ("modifiedDate", .null),
    ("createdDate", .str "2024-02-29T23:59:60+01:30"), ("note", .int 7),
    ("costComponents", .arr [
      .obj [("type", .str "per_cpu"), ("value", .str " 12.5 "), ("unit", .str "core")],
      .arr [.str "Licence", .str "flat", .int 18446744073709551615]]),
    ("advancedCostComponents", .obj [("hardware", .arr [
      .obj [("purchasePrice", .str "much"), ("allocationMethod", .str "by-rack")]])]),
    ("rules", .obj [("operator", .str "xor"), ("groups", .arr [
      .obj [("operator", .str "or"), ("conditions", .arr [
        .obj [("field", .str " TAG. env "), ("operator", .str "not_equals"), ("value", .bool true)],
        .obj [("field", .str "Colour"), ("operator", .str "between"), ("value", .int 4)]])]])])]

end Sample

theorem Profile.read?_toJson_of_read?_loose :
    Printable Sample.looseDocument ∧ ∃ p, Profile.read? Sample.looseDocument = some p ∧
      Printable p.toJson ∧ Profile.read? p.toJson = some p ∧
        (Profile.read? p.toJson).map toJson = some p.toJson := by
  have hprintable : Printable Sample.looseDocument := by
    simp [Sample.looseDocument, printable_arr_iff, printable_obj_iff, Printable.str, Printable.int,
      Printable.null, Printable.bool]
  have hread : (Profile.read? Sample.looseDocument).isSome = true := by decide +kernel
  obtain ⟨p, hp⟩ := Option.isSome_iff_exists.mp hread
  exact ⟨hprintable, p, hp, Profile.read?_toJson_of_read? hprintable hp⟩

end Chargeback
