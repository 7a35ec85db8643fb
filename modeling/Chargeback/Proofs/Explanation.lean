import Chargeback.Proofs.Counting
import Chargeback.Proofs.WellFormed

/-!
# An explanation tells what was decided

The report on one resource tries the published profiles by itself and prices the resource alone. What
it tells is compared here with the search for the first match and with the pricing of the whole
inventory, which do not use the report. The resource is followed by its place in the inventory,
because other resources may have the same name, and the profiles by their places in the store.
-/

namespace Chargeback

/-! ## Finding a resource -/

namespace Inventory

variable {α : Type} {inventory : List (Resource α)} {key : String}

/-- A key addresses the resource at a place: the first one that has it as its identifier, or, if none
has, the first one that has it as its name. -/
inductive Addresses (inventory : List (Resource α)) (key : String) (i : Fin inventory.length) : Prop
  | id (same : (inventory.get i).id = key) (first : ∀ j < i, (inventory.get j).id ≠ key)
  | name (unknown : ∀ j : Fin inventory.length, (inventory.get j).id ≠ key)
      (same : Text.sameLetters (inventory.get i).name key = true)
      (first : ∀ j < i, Text.sameLetters (inventory.get j).name key = false)

theorem exists_first_of_find? {ι : Type} {test : ι → Bool} {l : List ι} {x : ι}
    (h : l.find? test = some x) :
    ∃ i : Fin l.length, l.get i = x ∧ test (l.get i) = true ∧ ∀ j < i, test (l.get j) = false := by
  obtain ⟨hx, i, hi, hget, hfirst⟩ := List.find?_eq_some_iff_getElem.mp h
  have hplace : l.get ⟨i, hi⟩ = x := hget
  refine ⟨⟨i, hi⟩, hplace, ?_, ?_⟩
  · rw [hplace]
    exact hx
  · intro j hj
    simpa using hfirst j hj

/-- A resource that is found stands at the place that the key addresses. -/
theorem exists_addresses {r : Resource α} (h : find inventory key = .ok r) :
    ∃ i, Addresses inventory key i ∧ inventory.get i = r := by
  unfold find at h
  cases hid : inventory.find? fun r => r.id == key with
  | some r' =>
    rw [hid, Option.some_or] at h
    obtain rfl : r' = r := Except.ok.inj h
    obtain ⟨i, hplace, hsame, hfirst⟩ := exists_first_of_find? hid
    refine ⟨i, .id (eq_of_beq hsame) ?_, hplace⟩
    intro j hj
    exact ne_of_beq_false (hfirst j hj)
  | none =>
    rw [hid, Option.none_or] at h
    have hunknown : ∀ j : Fin inventory.length, (inventory.get j).id ≠ key := by
      intro j hj
      have hnot := List.find?_eq_none.mp hid (inventory.get j) (List.get_mem inventory j)
      exact hnot (beq_iff_eq.mpr hj)
    cases hname : inventory.find? fun r => Text.sameLetters r.name key with
    | none =>
      rw [hname] at h
      cases h
    | some r' =>
      rw [hname] at h
      obtain rfl : r' = r := Except.ok.inj h
      obtain ⟨i, hplace, hsame, hfirst⟩ := exists_first_of_find? hname
      exact ⟨i, .name hunknown hsame hfirst, hplace⟩

end Inventory

namespace Report

/-! ## Trying the candidates -/

/-- What becomes of some candidates if the one at a position is the first match, or none is. -/
def Outcome.around (count : Nat) : Option Nat → List Outcome
  | none => List.replicate count .noMatch
  | some k =>
    List.replicate k .noMatch ++ .selected :: List.replicate (count - (k + 1)) .notEvaluated

namespace Candidate

variable {α : Type} [Scalar α] {r : Resource α}

theorem trial_of_forall {l : List (Profile α)} (h : ∀ p ∈ l, p.applies r = false) :
    trial r l = l.map (of · .noMatch) := by
  induction l with
  | nil => rfl
  | cons p rest ih =>
    rw [trial, h p (.head rest), ih fun q hq => h q (.tail p hq)]
    rfl

theorem trial_append_cons {front back : List (Profile α)} {p : Profile α}
    (hfront : ∀ q ∈ front, q.applies r = false) (hp : p.applies r = true) :
    trial r (front ++ p :: back) =
      front.map (of · .noMatch) ++ of p .selected :: back.map (of · .notEvaluated) := by
  induction front with
  | nil => rw [List.nil_append, trial, if_pos hp]; rfl
  | cons q rest ih =>
    rw [List.cons_append, trial, hfront q (.head rest), ih fun s hs => hfront s (.tail q hs)]
    rfl

/-- The trial goes as far as the search for the first match. -/
theorem trial_cases (r : Resource α) (l : List (Profile α)) :
    ((Profile.search r l).position = none ∧ trial r l = l.map (of · .noMatch)) ∨
      ∃ front p back, l = front ++ p :: back ∧
        (Profile.search r l).position = some front.length ∧
        trial r l =
          front.map (of · .noMatch) ++ of p .selected :: back.map (of · .notEvaluated) := by
  rcases Search.forall_or_split (fun p : Profile α => p.applies r) l with
    hnone | ⟨front, p, back, hl, hfront, hp⟩
  · refine Or.inl ⟨?_, trial_of_forall hnone⟩
    rw [Profile.search, Search.first_of_forall hnone]
  · refine Or.inr ⟨front, p, back, hl, ?_, ?_⟩
    · rw [hl, Profile.search, Search.first_append_cons hfront hp]
    · rw [hl]
      exact trial_append_cons hfront hp

theorem map_outcome_trial (r : Resource α) (l : List (Profile α)) :
    (trial r l).map outcome = Outcome.around (trial r l).length (Profile.search r l).position := by
  have houtcome (o : Outcome) (ps : List (Profile α)) :
      (ps.map (of · o)).map outcome = List.replicate ps.length o := by
    rw [List.map_map]
    exact List.map_const'
  rcases trial_cases r l with ⟨hposition, htrial⟩ | ⟨front, p, back, -, hposition, htrial⟩
  · rw [hposition, htrial, houtcome, List.length_map]
    rfl
  · have hcount : (trial r l).length - (front.length + 1) = back.length := by
      rw [htrial, List.length_append, List.length_cons, List.length_map, List.length_map]
      omega
    rw [hposition, Outcome.around, hcount, htrial, List.map_append, List.map_cons, houtcome,
      houtcome]
    rfl

/-- Every candidate is listed in its turn, whatever becomes of it. -/
theorem map_label_trial (r : Resource α) (l : List (Profile α)) :
    ((trial r l).map fun c => (c.priority, c.profile)) = l.map fun p => (p.priority, p.name) := by
  have hlabel (o : Outcome) (ps : List (Profile α)) :
      ((ps.map (of · o)).map fun c => (c.priority, c.profile)) =
        ps.map fun p => (p.priority, p.name) := by
    rw [List.map_map]
    rfl
  rcases trial_cases r l with ⟨-, htrial⟩ | ⟨front, p, back, hl, -, htrial⟩
  · rw [htrial, hlabel]
  · rw [htrial, hl, List.map_append, List.map_append, List.map_cons, List.map_cons, hlabel, hlabel]
    rfl

/-- The candidates that are selected are the profiles that the search finds. -/
theorem exists_selected_iff {l : List (Profile α)} {name : String} :
    (∃ c ∈ trial r l, c.outcome = .selected ∧ c.profile = name) ↔
      ((Profile.search r l).position.bind (l[·]?)).map Profile.name = some name := by
  rcases trial_cases r l with ⟨hposition, htrial⟩ | ⟨front, p, back, hl, hposition, htrial⟩
  · rw [hposition, htrial]
    constructor
    · rintro ⟨c, hc, hselected, -⟩
      obtain ⟨q, -, rfl⟩ := List.mem_map.mp hc
      cases hselected
    · intro h
      cases h
  · have hfound : (Profile.search r l).position.bind (l[·]?) = some p := by
      rw [hposition, hl]
      simp
    rw [hfound, htrial, Option.map_some, Option.some_inj]
    constructor
    · rintro ⟨c, hc, hselected, rfl⟩
      rcases List.mem_append.mp hc with hc | hc
      · obtain ⟨q, -, rfl⟩ := List.mem_map.mp hc
        cases hselected
      · rcases List.mem_cons.mp hc with rfl | hc
        · rfl
        · obtain ⟨q, -, rfl⟩ := List.mem_map.mp hc
          cases hselected
    · rintro rfl
      exact ⟨of p .selected, List.mem_append_right _ List.mem_cons_self, rfl, rfl⟩

end Candidate

/-! ## Explanations -/

namespace Explanation

/-- An explanation tells how the resource at a place of an inventory is priced. It lists every
published profile once and in the order of the ranks, and its outcomes are those around the first
match. There is a selected candidate if the breakdown has a profile, and it is that profile. The
breakdown is the one that the resource has among those of the whole inventory. -/
structure Describes (e : Explanation) (o : EngineOptions Float) (profiles : List (Profile Float))
    (inventory : List (Resource Float)) (i : Fin inventory.length) : Prop where
  resource : e.resource = inventory.get i
  candidates : ∃ order : List (Fin profiles.length),
    order.Pairwise (fun j k => Profile.rank profiles j < Profile.rank profiles k) ∧
    (∀ j, j ∈ order ↔ (profiles.get j).isPublished = true) ∧
    (e.candidates.map fun c => (c.priority, c.profile)) =
      order.map fun j => ((profiles.get j).priority, (profiles.get j).name)
  outcomes : e.candidates.map Candidate.outcome =
    Outcome.around e.candidates.length
      (Profile.search e.resource (Profile.candidates profiles)).position
  selected : (∃ c ∈ e.candidates, c.outcome = .selected) ↔ e.breakdown.profile?.isSome = true
  applied : ∀ c ∈ e.candidates, c.outcome = .selected → e.breakdown.profiles = [c.profile]
  breakdown : ∀ sharing,
    (o.priceShared sharing profiles inventory)[(i : Nat)]? = some e.breakdown

variable (o : EngineOptions Float) (profiles : List (Profile Float))
  (inventory : List (Resource Float))

/-- A candidate is selected exactly if its profile is the one that the breakdown names. -/
theorem exists_selected_iff {r : Resource Float} {name : String} :
    (∃ c ∈ (of o profiles inventory r).candidates, c.outcome = .selected ∧ c.profile = name) ↔
      (of o profiles inventory r).breakdown.profile? = some name := by
  have hprofile : (of o profiles inventory r).breakdown.profile? =
      (Profile.match? r profiles).map Profile.name := o.profile?_price profiles inventory r
  rw [hprofile]
  exact Candidate.exists_selected_iff

theorem describes (i : Fin inventory.length) :
    (of o profiles inventory (inventory.get i)).Describes o profiles inventory i where
  resource := rfl
  candidates := by
    refine ⟨Profile.places profiles, Profile.pairwise_places profiles,
      fun j => Profile.mem_places, ?_⟩
    refine (Candidate.map_label_trial (inventory.get i) (Profile.candidates profiles)).trans ?_
    rw [Profile.candidates_eq_map, List.map_map]
    rfl
  outcomes := Candidate.map_outcome_trial (inventory.get i) (Profile.candidates profiles)
  selected := by
    rw [Option.isSome_iff_exists]
    constructor
    · rintro ⟨c, hc, hselected⟩
      exact ⟨c.profile, (exists_selected_iff o profiles inventory).mp ⟨c, hc, hselected, rfl⟩⟩
    · rintro ⟨name, hname⟩
      obtain ⟨c, hc, hselected, -⟩ := (exists_selected_iff o profiles inventory).mpr hname
      exact ⟨c, hc, hselected⟩
  applied := by
    intro c hc hselected
    have hname := (exists_selected_iff o profiles inventory).mp ⟨c, hc, hselected, rfl⟩
    have hwell := o.isWellFormed_price profiles inventory (inventory.get i)
    rw [of, o.profile?_price, Option.map_eq_some_iff] at hname
    obtain ⟨p, hp, hpname⟩ := hname
    rw [← hpname]
    exact (hwell.matched p hp).1
  breakdown := by
    intro sharing
    rw [o.priceShared_eq_map, getElem?_map_get]
    rfl

end Explanation

end Report

/-! ## The report -/

theorem Workspace.run_explain {w : Workspace} {inventory : List (Resource Float)}
    {store : Store Float} (hinventory : w.reading.result = .ok inventory)
    (hstore : w.readStore = .ok store) {key : String} {r : Resource Float}
    (hfind : Inventory.find inventory key = .ok r) :
    let e := Report.Explanation.of w.engine store.profiles inventory r
    (w.run (.explain key)).failure = none ∧
      (w.run (.explain key)).output = w.render (e.lines w.currency) e.toJson := by
  intro e
  rw [run, explain, withInventory_withStore hinventory hstore, hfind]
  exact ⟨rfl, rfl⟩

/-- Whatever the inventory, the store and the settings are: the explanation of a resource that is
found tells how the resource at the addressed place is priced, by itself and among all others. A run
that can read the inventory and the store prints this explanation. -/
theorem Workspace.explanation_is_decision {inventory : List (Resource Float)} {key : String}
    {r : Resource Float} (hfind : Inventory.find inventory key = .ok r) (w : Workspace)
    (store : Store Float) :
    let e := Report.Explanation.of w.engine store.profiles inventory r
    (∃ i, Inventory.Addresses inventory key i ∧
      e.Describes w.engine store.profiles inventory i) ∧
    (w.reading.result = .ok inventory → w.readStore = .ok store →
      (w.run (.explain key)).failure = none ∧
        (w.run (.explain key)).output = w.render (e.lines w.currency) e.toJson) := by
  intro e
  refine ⟨?_, fun hinventory hstore => run_explain hinventory hstore hfind⟩
  obtain ⟨i, haddressed, rfl⟩ := Inventory.exists_addresses hfind
  exact ⟨i, haddressed, Report.Explanation.describes w.engine store.profiles inventory i⟩

namespace Sample

/-- The text of an inventory of two resources of one name. -/
def twinsText : String :=
  "[\x7b\"id\": \"1\", \"name\": \"web\"\x7d, \x7b\"id\": \"2\", \"name\": \"web\"\x7d]"

/-- The text of a store of three published profiles. The second one is tried first and applies to no
resource; the other two have the same priority. -/
def tiedText : String :=
  "[\x7b\"name\": \"Heat\", \"status\": \"published\", \"priority\": 2, \"rules\": " ++
    "\x7b\"conditions\": [\x7b\"field\": \"name\", \"operator\": \"equals\", " ++
    "\"value\": \"web\"\x7d]\x7d\x7d, " ++
    "\x7b\"name\": \"Power\", \"status\": \"published\", \"priority\": 1\x7d, " ++
    "\x7b\"name\": \"Light\", \"status\": \"published\", \"priority\": 2\x7d]"

end Sample

theorem Workspace.explanation_is_decision_tied :
    let w := Sample.workspace Sample.twinsText Sample.tiedText
    ∃ (inventory : List (Resource Float)) (store : Store Float) (r : Resource Float),
      Inventory.find inventory "WEB" = .ok r ∧ inventory.length = 2 ∧
      let e := Report.Explanation.of w.engine store.profiles inventory r
      e.candidates =
        [⟨1, "Power", .noMatch⟩, ⟨2, "Heat", .selected⟩, ⟨2, "Light", .notEvaluated⟩] ∧
      (∃ i, Inventory.Addresses inventory "WEB" i ∧
        e.Describes w.engine store.profiles inventory i) ∧
      (w.run (.explain "WEB")).failure = none ∧
      (w.run (.explain "WEB")).output = w.render (e.lines w.currency) e.toJson := by
  intro w
  have hall : (w.reading.result.toOption.bind fun inventory => w.readStore.toOption.bind fun store =>
      (Inventory.find inventory "WEB").toOption.map fun r =>
        (inventory.length, Report.Candidate.trial r (Profile.candidates store.profiles))) =
      some (2, [⟨1, "Power", .noMatch⟩, ⟨2, "Heat", .selected⟩, ⟨2, "Light", .notEvaluated⟩]) := by
    decide +kernel
  obtain ⟨inventory, hreading, hall⟩ := Option.bind_eq_some_iff.mp hall
  obtain ⟨store, hreadStore, hall⟩ := Option.bind_eq_some_iff.mp hall
  obtain ⟨r, hfind, hpair⟩ := exists_ok_of_map hall
  obtain ⟨hlength, hcandidates⟩ := Prod.mk.inj hpair
  have hinventory : w.reading.result = .ok inventory := toOption_eq_some hreading
  have hstore : w.readStore = .ok store := toOption_eq_some hreadStore
  obtain ⟨hdescribes, hrun⟩ := explanation_is_decision hfind w store
  exact ⟨inventory, store, r, hfind, hlength, hcandidates, hdescribes, hrun hinventory hstore⟩

end Chargeback
