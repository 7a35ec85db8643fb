import Chargeback.Proofs.InstantText
import Chargeback.Proofs.Readers
import Chargeback.Proofs.Records
import Chargeback.Store.Basic

/-!
# Documents of profiles are read back

The document of every part of a profile is read back, as long as the text of the document does not cut
off any of it. All parts but one have a depth that never changes. A rule tree is as deep as its
branches: each child tree stands in an array within an object, so a tree of some height takes two levels
for each node of its longest branch, and one more where the last node has a condition.
-/

namespace Chargeback

open Json

/-! ## Lists -/

/-- A list is read back exactly if all of its items are. -/
theorem isSome_list?_reread {ι κ : Type} (read : Json → Option κ) (toJson : ι → Json)
    (depth : Nat) (l : List ι) :
    (list? read (reread (depth + 1) (ofList toJson l))).isSome =
      l.all fun x => (read (reread depth (toJson x))).isSome := by
  rw [ofList, reread, if_neg (Nat.succ_ne_zero depth), list?, rereadItems_eq_map, isSome_mapM,
    List.map_map, List.all_map]
  rfl

/-- The text of a list says the same as the list if the texts of its items do. -/
theorem reread_ofList {ι : Type} {toJson : ι → Json} {depth : Nat} {l : List ι}
    (h : ∀ x ∈ l, reread depth (toJson x) = toJson x) :
    reread (depth + 1) (ofList toJson l) = ofList toJson l := by
  rw [ofList, reread, if_neg (Nat.succ_ne_zero depth), rereadItems_eq_map, List.map_map]
  exact congrArg Json.arr (List.map_congr_left h)

/-- The text of an object says the same as the object if the texts of its fields do. -/
theorem reread_obj_of_forall {depth : Nat} {fields : List (String × Json)}
    (h : ∀ f ∈ fields, reread depth f.2 = f.2) : reread (depth + 1) (.obj fields) = .obj fields := by
  rw [reread_obj, seenThrough, List.map_congr_left fun f hf => by rw [h f hf], List.map_id']

theorem printable_ofList {ι : Type} {toJson : ι → Json} {l : List ι}
    (h : ∀ x ∈ l, Printable (toJson x)) : Printable (ofList toJson l) := by
  refine .arr fun j hj => ?_
  obtain ⟨x, hx, rfl⟩ := List.mem_map.mp hj
  exact h x hx

/-! ## Components -/

/-- A double that is written as a number is read back, and nothing stays nothing. -/
theorem reread_ofFloat (limit : Nat) (x : Float) : reread limit (ofFloat x) = ofFloat x := by
  rw [ofFloat]
  split
  · rename_i hfinite
    rw [reread, ofFloat, if_pos hfinite]
  · simp [reread]

theorem printable_ofFloat (x : Float) : Printable (ofFloat x) := by
  rw [ofFloat]
  split
  · exact .float x
  · exact .null

theorem reread_str (limit : Nat) (s : String) : reread limit (.str s) = .str s := by
  simp [reread]

theorem reread_ofNat (limit n : Nat) : reread limit (ofNat n) = ofNat n := by
  simp [ofNat, reread]

theorem printable_ofNat {n : Nat} (hn : n < 2 ^ 64) : Printable (ofNat n) :=
  .int (by omega) (by omega)

theorem Rate.reread_toJson (depth : Nat) (c : Rate Float) :
    reread (depth + 1) c.toJson = c.toJson :=
  reread_obj_of_forall (by simp [reread_str, reread_ofFloat])

theorem Rate.printable_toJson (c : Rate Float) : Printable c.toJson := by
  refine .obj ?_
  simp [Printable.str, printable_ofFloat]

theorem Hardware.reread_toJson (depth : Nat) (c : Hardware Float) :
    reread (depth + 1) c.toJson = c.toJson :=
  reread_obj_of_forall (by simp [reread_str, reread_ofFloat])

theorem Hardware.printable_toJson (c : Hardware Float) : Printable c.toJson := by
  refine .obj ?_
  simp [Printable.str, printable_ofFloat]

theorem Running.reread_toJson (depth : Nat) (c : Running Float) :
    reread (depth + 1) c.toJson = c.toJson :=
  reread_obj_of_forall (by simp [reread_str, reread_ofFloat])

theorem Running.printable_toJson (c : Running Float) : Printable c.toJson := by
  refine .obj ?_
  simp [Printable.str, printable_ofFloat]

theorem SharedItems.reread_toJson (depth : Nat) (s : SharedItems Float) :
    reread (depth + 3) s.toJson = s.toJson := by
  have hhardware := reread_ofList fun c (_ : c ∈ s.hardware) => Hardware.reread_toJson depth c
  have hrunning (l : List (Running Float)) :
      reread (depth + 2) (ofList Running.toJson l) = ofList Running.toJson l :=
    reread_ofList fun c _ => Running.reread_toJson depth c
  exact reread_obj_of_forall (by simp [hhardware, hrunning])

theorem SharedItems.printable_toJson (s : SharedItems Float) : Printable s.toJson := by
  refine .obj ?_
  simp [printable_ofList, Hardware.printable_toJson, Running.printable_toJson]

/-! ## Rule trees -/

/-- A condition is read back if it is not cut off as a whole. -/
theorem Condition.isSome_read?_reread (limit : Nat) (c : Condition) :
    (Condition.read? (reread limit c.toJson)).isSome = true ↔ 1 ≤ limit := by
  cases limit with
  | zero => simp [Condition.read?, Condition.toJson, reread, isRecord]
  | succ limit =>
    simp [Condition.read?, Condition.toJson, reread, rereadFields, isRecord, optional?, required?,
      slot?, str?, variant?, lenient?, isUsable]

theorem Condition.printable_toJson (c : Condition) : Printable c.toJson := by
  refine .obj ?_
  simp [Printable.str]

theorem Condition.depth_toJson (c : Condition) : c.toJson.depth = 1 := by
  simp [Condition.toJson, depth, depthFields]

namespace RuleTree

mutual

/-- The number of nodes on the longest branch of a tree. -/
def height : RuleTree → Nat
  | ⟨_, _, groups⟩ => heights groups + 1

/-- The greatest height among trees. -/
def heights : List RuleTree → Nat
  | [] => 0
  | t :: rest => max (height t) (heights rest)

end

theorem heights_le_iff {n : Nat} {groups : List RuleTree} :
    heights groups ≤ n ↔ ∀ t ∈ groups, t.height ≤ n := by
  induction groups with
  | nil => simp [heights]
  | cons t rest ih => rw [heights, Nat.max_le, ih, List.forall_mem_cons]

theorem height_le_succ_iff {n : Nat} (connective : Connective) (conditions : List Condition)
    (groups : List RuleTree) :
    height ⟨connective, conditions, groups⟩ ≤ n + 1 ↔ ∀ t ∈ groups, t.height ≤ n := by
  rw [height, Nat.add_le_add_iff_right, heights_le_iff]

theorem toJsons_eq_map (groups : List RuleTree) : toJsons groups = groups.map toJson := by
  induction groups with
  | nil => rfl
  | cons t rest ih => rw [toJsons, ih, List.map_cons]

/-- The fields of the document of a tree. -/
theorem toJson_eq (connective : Connective) (conditions : List Condition)
    (groups : List RuleTree) :
    toJson ⟨connective, conditions, groups⟩ =
      .obj ([("operator", .str connective.name),
          ("conditions", ofList Condition.toJson conditions)] ++
        if groups = [] then [] else [("groups", ofList toJson groups)]) := by
  cases groups with
  | nil => simp [toJson]
  | cons t rest =>
    rw [toJson]
    · simp [ofList, toJsons_eq_map]
    · simp

theorem depthItems_map_le_iff {ι : Type} {toJson : ι → Json} {l : List ι} {n : Nat} :
    depthItems (l.map toJson) ≤ n ↔ ∀ x ∈ l, (toJson x).depth ≤ n := by
  induction l with
  | nil => simp [depthItems]
  | cons x l ih => rw [List.map_cons, depthItems, Nat.max_le, ih, List.forall_mem_cons]

theorem two_le_depth_toJson (t : RuleTree) : 2 ≤ t.toJson.depth := by
  obtain ⟨connective, conditions, groups⟩ := t
  simp only [toJson_eq, ofList, depth, List.cons_append, depthFields]
  omega

/-- Two levels of the document of a tree are its own, and one more is that of its conditions. -/
theorem depth_toJson_le_iff {n : Nat} (connective : Connective) (conditions : List Condition)
    (groups : List RuleTree) :
    (toJson ⟨connective, conditions, groups⟩).depth ≤ n + 2 ↔
      (∀ c ∈ conditions, 1 ≤ n) ∧ ∀ t ∈ groups, t.toJson.depth ≤ n := by
  have hconditions : depthItems (conditions.map Condition.toJson) ≤ n ↔ ∀ c ∈ conditions, 1 ≤ n := by
    simp only [depthItems_map_le_iff, Condition.depth_toJson]
  rw [← hconditions, ← depthItems_map_le_iff, toJson_eq]
  cases groups with
  | nil => simp [ofList, depth, depthFields, depthItems]
  | cons t rest =>
    simp only [ofList, depth, depthFields, reduceCtorEq, if_false, List.cons_append,
      List.nil_append]
    omega

theorem printable_toJson : ∀ t : RuleTree, Printable t.toJson
  | ⟨connective, conditions, groups⟩ => by
    have hgroups : ∀ t ∈ groups, Printable t.toJson := fun t _ => printable_toJson t
    rw [toJson_eq]
    refine .obj fun f hf => ?_
    rcases List.mem_append.mp hf with hf | hf
    · rcases List.mem_pair.mp hf with rfl | rfl
      · exact .str _
      · exact printable_ofList fun c _ => c.printable_toJson
    · split at hf
      · cases hf
      · rw [List.mem_singleton.mp hf]
        exact printable_ofList hgroups

/-- The name of a connective is read as this connective. -/
theorem ofName_connective (c : Connective) : Connective.ofName c.name = c := by
  cases c <;> rfl

/-- A tree is read from a document of its shape by its conditions and child trees. -/
theorem readWithin?_obj (fuel : Nat) (connective : Connective) (conditions groups : Json)
    (leaf : Prop) [Decidable leaf] :
    readWithin? (fuel + 1) (.obj ([("operator", .str connective.name), ("conditions", conditions)] ++
        if leaf then [] else [("groups", groups)])) =
      (list? Condition.read? conditions).bind fun c =>
        (if leaf then some [] else list? (readWithin? fuel) groups).map fun g =>
          ⟨connective, c, g⟩ := by
  cases hconditions : list? Condition.read? conditions with
  | none =>
    split <;>
      simp [readWithin?, isRecord, optional?, slot?, variant?, hconditions]
  | some c =>
    split
    · simp [readWithin?, isRecord, optional?, slot?, variant?, hconditions, ofName_connective]
    · cases hgroups : list? (readWithin? fuel) groups <;>
        simp [readWithin?, isRecord, optional?, slot?, variant?, hconditions, hgroups,
          ofName_connective]

theorem isSome_readWithin?_obj (fuel : Nat) (connective : Connective) (conditions groups : Json)
    (leaf : Prop) [Decidable leaf] :
    (readWithin? (fuel + 1) (.obj ([("operator", .str connective.name), ("conditions", conditions)] ++
        if leaf then [] else [("groups", groups)]))).isSome =
      ((list? Condition.read? conditions).isSome &&
        (decide leaf || (list? (readWithin? fuel) groups).isSome)) := by
  rw [readWithin?_obj]
  cases list? Condition.read? conditions with
  | none => rfl
  | some c =>
    by_cases hleaf : leaf
    · simp [hleaf]
    · simp [hleaf]

/-- Below its outermost level the document of a tree keeps its shape. -/
theorem reread_succ_toJson (limit : Nat) (connective : Connective) (conditions : List Condition)
    (groups : List RuleTree) :
    reread (limit + 1) (toJson ⟨connective, conditions, groups⟩) =
      .obj ([("operator", .str connective.name),
          ("conditions", reread limit (ofList Condition.toJson conditions))] ++
        if groups = [] then [] else [("groups", reread limit (ofList toJson groups))]) := by
  rw [toJson_eq, reread, if_neg (Nat.succ_ne_zero limit)]
  cases groups with
  | nil => simp [rereadFields, reread]
  | cons t rest => simp [rereadFields, reread]

/-- A tree is not read back where the list of its conditions, which is always written, is cut off. -/
theorem isSome_readWithin?_cut (fuel : Nat) {limit : Nat} (h : limit < 2) (t : RuleTree) :
    (readWithin? (fuel + 1) (reread limit t.toJson)).isSome = false := by
  obtain ⟨connective, conditions, groups⟩ := t
  match limit with
  | 0 =>
    rw [toJson_eq, reread, if_pos rfl]
    rfl
  | 1 =>
    have hcut : reread 0 (ofList Condition.toJson conditions) = .unusable := by
      rw [ofList, reread, if_pos rfl]
    have hnone : list? Condition.read? .unusable = none := rfl
    rw [reread_succ_toJson, isSome_readWithin?_obj, hcut, hnone, Option.isSome_none,
      Bool.false_and]

/-- A tree is read back within a height exactly if it is not higher and nothing of its document is cut
off. -/
theorem isSome_readWithin?_reread (fuel limit : Nat) (t : RuleTree) :
    (readWithin? fuel (reread limit t.toJson)).isSome = true ↔
      t.height ≤ fuel ∧ t.toJson.depth ≤ limit := by
  induction fuel generalizing limit t with
  | zero =>
    obtain ⟨connective, conditions, groups⟩ := t
    simp [readWithin?, height]
  | succ fuel ih =>
    rcases Nat.lt_or_ge limit 2 with hlimit | hlimit
    · have hleast := two_le_depth_toJson t
      rw [isSome_readWithin?_cut fuel hlimit]
      exact iff_of_false Bool.false_ne_true fun h => by omega
    · obtain ⟨connective, conditions, groups⟩ := t
      obtain ⟨limit, rfl⟩ : ∃ n, limit = n + 2 := ⟨limit - 2, by omega⟩
      have hgroups : (decide (groups = []) ||
            (list? (readWithin? fuel) (reread (limit + 1) (ofList toJson groups))).isSome) = true ↔
          ∀ t ∈ groups, t.height ≤ fuel ∧ t.toJson.depth ≤ limit := by
        rw [isSome_list?_reread, Bool.or_eq_true, decide_eq_true_eq, List.all_eq_true]
        simp only [ih]
        constructor
        · rintro (rfl | h)
          · simp
          · exact h
        · exact .inr
      have hconditions : (list? Condition.read?
            (reread (limit + 1) (ofList Condition.toJson conditions))).isSome = true ↔
          ∀ c ∈ conditions, 1 ≤ limit := by
        simp only [isSome_list?_reread, List.all_eq_true, Condition.isSome_read?_reread]
      rw [reread_succ_toJson, isSome_readWithin?_obj, Bool.and_eq_true, hconditions, hgroups,
        height_le_succ_iff, depth_toJson_le_iff]
      constructor
      · rintro ⟨hc, ht⟩
        exact ⟨fun t h => (ht t h).1, hc, fun t h => (ht t h).2⟩
      · rintro ⟨hheight, hc, hdepth⟩
        exact ⟨hc, fun t h => ⟨hheight t h, hdepth t h⟩⟩

/-- A tree of some height has a document of twice the depth, or one more. -/
theorem depth_toJson_le_iff_height_le (n : Nat) (t : RuleTree) :
    t.toJson.depth ≤ 2 * n + 1 ↔ t.height ≤ n := by
  induction n generalizing t with
  | zero =>
    obtain ⟨connective, conditions, groups⟩ := t
    have hleast := two_le_depth_toJson ⟨connective, conditions, groups⟩
    rw [height]
    omega
  | succ n ih =>
    obtain ⟨connective, conditions, groups⟩ := t
    rw [show 2 * (n + 1) + 1 = 2 * n + 1 + 2 by omega, depth_toJson_le_iff, height_le_succ_iff]
    simp only [ih]
    exact ⟨And.right, fun h => ⟨fun _ _ => by omega, h⟩⟩

/-- A tree is read back exactly if nothing of its document is cut off. -/
theorem isSome_read?_reread (limit : Nat) (t : RuleTree) :
    (read? (reread limit t.toJson)).isSome = true ↔ t.toJson.depth ≤ limit := by
  have hheight : t.height ≤ t.toJson.depth := (depth_toJson_le_iff_height_le _ t).mp (by omega)
  rw [read?, isSome_readWithin?_reread, depth_reread]
  omega

end RuleTree

/-! ## Profiles -/

namespace Profile

theorem read?_status (s : Status) : Status.read? (.str s.name) = some s := by
  cases s <;> rfl

theorem read?_model (m : CostModel) : CostModel.read? (.str m.name) = some m := by
  cases m <;> rfl

theorem readInstant?_text (t : Instant) :
    nullable? readInstant? (.str t.text) = some (some t) := by
  have hread : readInstant? (.str t.text) = some t := by
    rw [readInstant?, str?, Option.bind_some]
    exact t.parse?_text
  rw [nullable?, hread]
  · rfl
  · simp

/-- The fields that every document of a profile has. -/
def fixedFields (p : Profile Float) : List (String × Json) :=
  [("id", .str p.id), ("name", .str p.name), ("description", .str p.description),
    ("status", .str p.status.name), ("priority", .ofNat p.priority),
    ("costModel", .str p.model.name), ("rules", p.rules.toJson),
    ("costComponents", .ofList Rate.toJson p.rates), ("advancedCostComponents", p.shared.toJson)]

/-- The fields of the document of a profile. -/
def fields (p : Profile Float) : List (String × Json) :=
  p.fixedFields ++ optionalField "createdDate" (fun t => .str t.text) p.created ++
    optionalField "modifiedDate" (fun t => .str t.text) p.modified

theorem toJson_eq_obj (p : Profile Float) : p.toJson = .obj p.fields := rfl

theorem printable_toJson {p : Profile Float} (hp : p.priority < UInt32.size) :
    Printable p.toJson := by
  have hpriority : Printable (ofNat p.priority) := printable_ofNat (hp.trans (by decide))
  have hrates : Printable (ofList Rate.toJson p.rates) :=
    printable_ofList fun c _ => c.printable_toJson
  have hdate : ∀ t : Instant, Printable (.str t.text) := fun t => .str t.text
  have hfixed : ∀ f ∈ p.fixedFields, Printable f.2 := by
    simp [fixedFields, Printable.str, hpriority, hrates, p.rules.printable_toJson,
      p.shared.printable_toJson]
  refine .obj fun f hf => ?_
  rcases List.mem_append.mp hf with hf | hf
  · rcases List.mem_append.mp hf with hf | hf
    · exact hfixed f hf
    · exact of_mem_optionalField hdate f hf
  · exact of_mem_optionalField hdate f hf

theorem nodup_fields (p : Profile Float) : (p.fields.map Prod.fst).Nodup := by
  rw [fields, fixedFields]
  cases p.created <;> cases p.modified <;> simp [optionalField]

/-- Where those parts of a profile come from that are not texts. -/
theorem parts_of_read? {j : Json} {p : Profile Float} (h : Profile.read? j = some p) :
    optional? j 4 ["priority"] defaultPriority (natBelow? UInt32.size) = some p.priority ∧
      optional? j 6 ["rules"] .empty RuleTree.read? = some p.rules ∧
      optional? j 7 ["costComponents"] [] (list? Rate.read?) = some p.rates ∧
      optional? j 8 ["advancedCostComponents"] .empty SharedItems.read? = some p.shared := by
  obtain ⟨-, -, -, -, -, hpriority, -, hrules, hrates, hshared, -, -⟩ := read?_eq_some_iff.mp h
  exact ⟨hpriority, hrules, hrates, hshared⟩

/-- The priority of a profile that is read fits in 32 bits. -/
theorem priority_lt_of_read? {j : Json} {p : Profile Float} (h : Profile.read? j = some p) :
    p.priority < UInt32.size := by
  obtain ⟨hpriority, -⟩ := parts_of_read? h
  rcases optional?_eq_some hpriority with hdefault | ⟨value, -, hvalue⟩
  · exact hdefault ▸ (by decide : Profile.defaultPriority < UInt32.size)
  · exact natBelow?_lt hvalue

section View

-- Texts and priorities are seen as they are; what is nested deeper may be changed.
variable {view : Json → Json} (hstr : ∀ s, view (.str s) = .str s)
  (hnat : ∀ n, view (ofNat n) = ofNat n)

include hstr hnat in
/-- A profile is read back as soon as its rule tree and its components are. -/
theorem read?_seenThrough {p : Profile Float} (hp : p.priority < UInt32.size)
    {rates : List (Rate Float)} {shared : SharedItems Float}
    (hrates : list? Rate.read? (view (ofList Rate.toJson p.rates)) = some rates)
    (hshared : SharedItems.read? (view p.shared.toJson) = some shared) :
    Profile.read? (seenThrough view p.fields) =
      (RuleTree.read? (view p.rules.toJson)).map fun rules => { p with rules, rates, shared } := by
  have hrecord : isRecord 11 (seenThrough view p.fields) = true := rfl
  have hname : required? (seenThrough view p.fields) 1 ["name"] str? = str? (view (.str p.name)) :=
    required?_seenThrough view 1 p.nodup_fields
      (show ("name", .str p.name) ∈ p.fields by simp [fields, fixedFields])
  have hgiven : ∀ (name : String) (value : Json), (name, value) ∈ p.fixedFields →
      ∀ {κ : Type} (position : Nat) (default : κ) (read : Json → Option κ),
        optional? (seenThrough view p.fields) position [name] default read = read (view value) :=
    fun name value h κ position default read =>
      optional?_seenThrough view position p.nodup_fields (by simp [fields, h]) default
  have hid := @hgiven "id" (.str p.id) (by simp [fixedFields])
  have hdescription := @hgiven "description" (.str p.description) (by simp [fixedFields])
  have hstatus := @hgiven "status" (.str p.status.name) (by simp [fixedFields])
  have hpriority := @hgiven "priority" (.ofNat p.priority) (by simp [fixedFields])
  have hmodel := @hgiven "costModel" (.str p.model.name) (by simp [fixedFields])
  have hrules := @hgiven "rules" p.rules.toJson (by simp [fixedFields])
  have hcomponents := @hgiven "costComponents" (.ofList Rate.toJson p.rates) (by simp [fixedFields])
  have hadvanced := @hgiven "advancedCostComponents" p.shared.toJson (by simp [fixedFields])
  have hdate {date : Option Instant} (t : Instant) (_ : date = some t) :
      nullable? readInstant? (view (.str t.text)) = some (some t) := by
    rw [hstr]
    exact readInstant?_text t
  have hcreated : optional? (seenThrough view p.fields) 9 ["createdDate"] none
      (nullable? readInstant?) = some p.created := by
    refine optional?_optionalField view 9 p.nodup_fields (fun t ht => ?_) (fun hnone => ?_) hdate
    · simp [fields, fixedFields, ht, optionalField]
    · cases h : p.modified <;> simp [fields, fixedFields, hnone, h, optionalField]
  have hmodified : optional? (seenThrough view p.fields) 10 ["modifiedDate"] none
      (nullable? readInstant?) = some p.modified := by
    refine optional?_optionalField view 10 p.nodup_fields (fun t ht => ?_) (fun hnone => ?_) hdate
    · simp [fields, fixedFields, ht, optionalField]
    · cases h : p.created <;> simp [fields, fixedFields, hnone, h, optionalField]
  rw [Profile.read?, hrecord]
  simp only [hname, hid, hdescription, hstatus, hpriority, hmodel, hrules, hcomponents, hadvanced,
    hcreated, hmodified, hrates, hshared, hstr, hnat, str?, read?_status, read?_model,
    natBelow?_ofNat hp, guard_true, Option.bind_eq_bind, Option.pure_def, Option.bind_some]
  cases RuleTree.read? (view p.rules.toJson) <;> rfl

end View

end Profile

end Chargeback
