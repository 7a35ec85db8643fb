import Chargeback.Proofs.BreakdownDocuments
import Chargeback.Proofs.Comparisons
import Chargeback.Proofs.RoundTrip
import Chargeback.Proofs.TextMaps

/-!
# Resources are read back from their documents

Whatever spelling a resource has been read from, its own document has one spelling, its numbers are
finite and its tags are texts. What was lost on the way in is lost once: the tags of an object of texts
are these texts, in the order of their keys, so reading them again changes nothing. The document is not
nested deeper than any text may be, so its text is read as the document.
-/

namespace Chargeback

open Json

/-! ## Tags -/

/-- Texts have no objects in them that could be normalized. -/
theorem normalizeFields_str (l : List (String × String)) :
    normalizeFields (l.map fun e => (e.1, .str e.2)) = l.map fun e => (e.1, .str e.2) := by
  induction l with
  | nil => rfl
  | cons e rest ih =>
    rw [List.map_cons, normalizeFields, ih]
    rfl

/-- The object of some tags has these tags. -/
theorem tags_ofTextMap (m : TextMap String) : tags (ofTextMap .str m) = m := by
  let strings : TextMap Json := m.filterMap fun s => some (.str s)
  have hstrings : strings.entries = m.entries.map fun e => (e.1, .str e.2) := by
    rw [TextMap.entries_filterMap]
    exact congrFun List.filterMap_eq_map' m.entries
  have htags : tags (ofTextMap .str m) = strings.filterMap tagText := by
    rw [ofTextMap, tags, normalizeFields_str, ← hstrings, TextMap.ofList_entries]
  rw [htags]
  refine TextMap.ext ?_
  rw [TextMap.entries_filterMap, hstrings, List.filterMap_map]
  exact List.filterMap_some

theorem printable_ofTextMap (m : TextMap String) : Printable (ofTextMap .str m) := by
  refine .obj fun f hf => ?_
  obtain ⟨e, -, rfl⟩ := List.mem_map.mp hf
  exact .str e.2

theorem reread_ofTextMap (limit : Nat) (m : TextMap String) :
    reread (limit + 1) (ofTextMap .str m) = ofTextMap .str m := by
  refine reread_obj_of_forall fun f hf => ?_
  obtain ⟨e, -, rfl⟩ := List.mem_map.mp hf
  exact reread_str limit e.2

theorem lenient?_ofTextMap (m : TextMap String) : lenient? tags (ofTextMap .str m) = some m := by
  rw [lenient?, if_pos (printable_ofTextMap m).isUsable, tags_ofTextMap]

/-! ## Resources -/

namespace Resource

/-- The fields of the document of a resource. -/
def fields (r : Resource Float) : List (String × Json) :=
  [("ResourceId", .str r.id), ("ResourceName", .str r.name)] ++
    optionalField "ResourceType" .str r.kind ++
    [("OwnerID", .str r.owner), ("RegionName", .str r.region), ("CPU", .ofFloat r.cpu),
      ("MemoryGB", .ofFloat r.memory), ("StorageGB", .ofFloat r.storage),
      ("Tags", .ofTextMap .str r.tags)]

theorem toJson_eq_obj (r : Resource Float) : r.toJson = .obj r.fields := rfl

theorem nodup_fields (r : Resource Float) : (r.fields.map Prod.fst).Nodup := by
  rw [fields]
  cases r.kind <;> simp [optionalField]

/-- The fields of a resource are texts, numbers and its tags. -/
theorem forall_mem_fields {P : Json → Prop} (hstr : ∀ s, P (.str s)) (hfloat : ∀ x, P (.ofFloat x))
    {r : Resource Float} (htags : P (.ofTextMap .str r.tags)) : ∀ f ∈ r.fields, P f.2 := by
  simp only [fields, List.forall_mem_append]
  refine ⟨⟨?_, of_mem_optionalField hstr⟩, ?_⟩
  · simp [hstr]
  · simp [hstr, hfloat, htags]

theorem printable_toJson (r : Resource Float) : Printable r.toJson :=
  .obj (forall_mem_fields .str printable_ofFloat (printable_ofTextMap r.tags))

/-- The text of a resource says the same as its document. -/
theorem reread_toJson (limit : Nat) (r : Resource Float) : reread (limit + 2) r.toJson = r.toJson :=
  reread_obj_of_forall (forall_mem_fields (P := fun j => reread (limit + 1) j = j)
    (reread_str (limit + 1)) (reread_ofFloat (limit + 1)) (reread_ofTextMap limit r.tags))

/-- The tags stand in the document as an object of texts. -/
theorem slot?_tags_toJson (r : Resource Float) :
    slot? 8 ["Tags"] r.toJson = some (some (.ofTextMap .str r.tags)) := by
  rw [toJson_eq_obj, ← seenThrough_self]
  refine slot?_seenThrough _ 8 [("Tags", .ofTextMap .str r.tags)] ?_
  exact filter_contains_of_mem r.nodup_fields (f := ("Tags", _)) (by simp [fields])

/-- A resource with finite capacities is read back from its document. -/
theorem read?_toJson {r : Resource Float} (hr : r.HasFiniteCapacities) :
    Resource.read? r.toJson = some r := by
  obtain ⟨id, name, kind, owner, region, cpu, memory, storage, tags⟩ := r
  have hcpu := lenient?_ofFloat hr.cpu
  have hmemory := lenient?_ofFloat hr.memory
  have hstorage := lenient?_ofFloat hr.storage
  have htags := lenient?_ofTextMap tags
  cases kind with
  | none =>
    simp [Resource.read?, toJson, optionalField, isRecord, required?, optional?, slot?, str?, hcpu,
      hmemory, hstorage, htags]
  | some kind =>
    simp [Resource.read?, toJson, optionalField, isRecord, required?, optional?, slot?, str?,
      nullable?, hcpu, hmemory, hstorage, htags]

/-- Whatever resource is read has finite capacities: a number that is none counts as zero. -/
theorem hasFiniteCapacities_of_read? {j : Json} (hj : InRange j) {r : Resource Float}
    (h : Resource.read? j = some r) : r.HasFiniteCapacities := by
  have hfinite {position : Nat} {names : List String} {x : Float}
      (hx : optional? j position names 0.0 (lenient? lenientFloat) = some x) :
      x.isFinite = true := by
    rcases optional?_eq_some hx with rfl | ⟨value, hslot, hvalue⟩
    · exact isFinite_zero
    · rw [lenient?] at hvalue
      split at hvalue
      · cases hvalue
        exact isFinite_lenientFloat (hj.of_slot? hslot)
      · cases hvalue
  obtain ⟨-, -, -, -, -, -, hcpu, hmemory, hstorage, -⟩ := read?_eq_some_iff.mp h
  exact ⟨hfinite hcpu, hfinite hmemory, hfinite hstorage⟩

/-- From whatever document a resource has been read, its own document gives the same resource again, its
text is read as this document, and its tags are written as texts. The tags of a value are, written as an
object, the tags of this object. -/
theorem read?_again :
    (∀ (document : Json) (r : Resource Float), Printable document →
      Resource.read? document = some r →
        Resource.read? r.toJson = some r ∧
        Json.read? (Report.text [r.toJson.pretty]) = some r.toJson ∧
        ∃ fields, slot? 8 ["Tags"] r.toJson = some (some (.obj fields)) ∧
          ∀ f ∈ fields, ∃ s, f.2 = .str s) ∧
    ∀ v, Json.tags (ofTextMap .str (Json.tags v)) = Json.tags v := by
  refine ⟨fun document r hdocument h => ⟨?_, ?_, ?_⟩, fun v => tags_ofTextMap (Json.tags v)⟩
  · exact read?_toJson (hasFiniteCapacities_of_read? hdocument.inRange h)
  · exact r.printable_toJson.read?_text (r.reread_toJson (depthLimit - 2))
  · refine ⟨_, r.slot?_tags_toJson, fun f hf => ?_⟩
    obtain ⟨e, -, rfl⟩ := List.mem_map.mp hf
    exact ⟨e.2, rfl⟩

end Resource

namespace Sample

/-- A resource under other names, with numbers in texts, an empty kind, and tags of all shapes. -/
def looseResource : Json :=
  .obj [("id", .str "vm-1"), ("name", .str "web"), ("resource_type", .str ""), ("cpu_count", .str " 8 "),
    ("MemoryGB", .null), ("storage_gb", .bool true), ("note", .arr []),
    ("tags", .obj [("zone", .int 3), ("env", .str "prod"), ("owner", .null),
      ("ports", .arr [.int 80, .obj [("tls", .bool true)]]), ("env", .float 0.5)])]

end Sample

theorem Resource.read?_again_loose :
    Printable Sample.looseResource ∧ ∃ r, Resource.read? Sample.looseResource = some r ∧
      r.kind = some "" ∧ r.tags.get? "ports" = some "[80,\x7b\"tls\":true\x7d]" ∧
        Resource.read? r.toJson = some r := by
  have hprintable : Printable Sample.looseResource := by
    simp [Sample.looseResource, printable_arr_iff, printable_obj_iff, Printable.str, Printable.int,
      Printable.null, Printable.bool, Printable.float]
  have hread : (Resource.read? Sample.looseResource).map (fun r => (r.kind, r.tags.get? "ports")) =
      some (some "", some "[80,\x7b\"tls\":true\x7d]") := by
    decide +kernel
  obtain ⟨r, hr, hparts⟩ := Option.map_eq_some_iff.mp hread
  obtain ⟨hkind, hports⟩ := Prod.mk.inj hparts
  exact ⟨hprintable, r, hr, hkind, hports, (Resource.read?_again.1 _ r hprintable hr).1⟩

end Chargeback
