import Chargeback.Pricing.Pool
import Chargeback.Profile.Validation
import Chargeback.Proofs.Matching

/-!
# What a rule tree says

A node is decided by the verdicts on its parts, its conditions and its child trees: it matches if one of
them holds and, under "and", none fails. Neither the order of the verdicts nor their number plays a part,
and a node without parts matches nothing because no verdict on it holds. The laws of whole trees follow
from this one equivalence. A tree sees a resource only through its conditions, and it does not stop
matching when more of them hold. A tree that matches has a condition that holds, so a tree without
conditions matches nothing, however its nodes are joined and nested.
-/

namespace Chargeback

namespace RuleTree

/-! ## The conditions of a tree -/

mutual

/-- The conditions that occur in a tree, at any depth. -/
def allConditions : RuleTree → List Condition
  | ⟨_, conditions, groups⟩ => conditions ++ allConditionsOf groups

/-- The conditions that occur in the trees of a list. -/
def allConditionsOf : List RuleTree → List Condition
  | [] => []
  | t :: rest => allConditions t ++ allConditionsOf rest

end

theorem allConditionsOf_eq_flatMap (groups : List RuleTree) :
    allConditionsOf groups = groups.flatMap allConditions := by
  induction groups with
  | nil => rfl
  | cons t rest ih => rw [allConditionsOf, ih, List.flatMap_cons]

theorem mem_allConditions {c : Condition} {t : RuleTree} :
    c ∈ t.allConditions ↔ c ∈ t.conditions ∨ ∃ g ∈ t.groups, c ∈ g.allConditions := by
  obtain ⟨connective, conditions, groups⟩ := t
  rw [allConditions, allConditionsOf_eq_flatMap, List.mem_append, List.mem_flatMap]

mutual

/-- The number of conditions is that of their list. -/
theorem length_allConditions (t : RuleTree) : t.allConditions.length = t.conditionCount := by
  obtain ⟨_, conditions, groups⟩ := t
  rw [allConditions, conditionCount, List.length_append, length_allConditionsOf groups]

theorem length_allConditionsOf :
    ∀ groups : List RuleTree, (allConditionsOf groups).length = conditionCounts groups
  | [] => rfl
  | t :: rest => by
    rw [allConditionsOf, conditionCounts, List.length_append, length_allConditions t,
      length_allConditionsOf rest]

end

/-! ## Verdicts on the parts of a node -/

variable {α : Type} [Scalar α] {r s : Resource α} {t t' : RuleTree}

/-- The verdicts on the conditions and on the child trees of a node. -/
def verdicts (r : Resource α) (t : RuleTree) : List Bool :=
  t.conditions.map (·.holds r) ++ t.groups.map (isMatch r)

theorem mem_verdicts {b : Bool} :
    b ∈ t.verdicts r ↔
      (∃ c ∈ t.conditions, c.holds r = b) ∨ ∃ g ∈ t.groups, g.isMatch r = b := by
  rw [verdicts, List.mem_append, List.mem_map, List.mem_map]

theorem allMatch_eq_all (r : Resource α) (groups : List RuleTree) :
    allMatch r groups = groups.all (isMatch r) := by
  induction groups with
  | nil => rfl
  | cons t rest ih => rw [allMatch, ih, List.all_cons]

theorem anyMatch_eq_any (r : Resource α) (groups : List RuleTree) :
    anyMatch r groups = groups.any (isMatch r) := by
  induction groups with
  | nil => rfl
  | cons t rest ih => rw [anyMatch, ih, List.any_cons]

theorem verdicts_eq_nil_iff : t.verdicts r = [] ↔ t.isEmpty = true := by
  simp [verdicts, isEmpty]

/-- A node is decided by the list of the verdicts on its parts. -/
theorem isMatch_eq (r : Resource α) (t : RuleTree) :
    t.isMatch r =
      if t.isEmpty then false
      else match t.connective with
        | .and => (t.verdicts r).all id
        | .or => (t.verdicts r).any id
        | .unknown => false := by
  obtain ⟨connective, conditions, groups⟩ := t
  have hall : (verdicts r ⟨connective, conditions, groups⟩).all id =
      (conditions.all (·.holds r) && groups.all (isMatch r)) := by
    rw [verdicts, List.all_append, List.all_map, List.all_map]
    rfl
  have hany : (verdicts r ⟨connective, conditions, groups⟩).any id =
      (conditions.any (·.holds r) || groups.any (isMatch r)) := by
    rw [verdicts, List.any_append, List.any_map, List.any_map]
    rfl
  rw [isMatch.eq_def, hall, hany]
  simp only [allMatch_eq_all, anyMatch_eq_any]
  cases connective <;> rfl

/-- Where there are verdicts and none fails, one of them holds. -/
theorem true_mem_of_ne_nil {l : List Bool} (hne : l ≠ []) (hfalse : false ∉ l) : true ∈ l := by
  obtain ⟨b, hb⟩ := List.exists_mem_of_ne_nil l hne
  cases b with
  | false => exact absurd hb hfalse
  | true => exact hb

/-- A node matches if a part of it does and, under "and", none fails. -/
theorem isMatch_iff :
    t.isMatch r = true ↔
      t.connective ≠ .unknown ∧ true ∈ t.verdicts r ∧
        (t.connective = .and → false ∉ t.verdicts r) := by
  rw [isMatch_eq]
  by_cases hempty : t.isEmpty = true
  · simp [hempty, verdicts_eq_nil_iff.mpr hempty]
  · have hne : t.verdicts r ≠ [] := fun hnil => hempty (verdicts_eq_nil_iff.mp hnil)
    rw [if_neg hempty]
    cases t.connective with
    | and => simpa [List.all_eq_true, Bool.forall_bool] using true_mem_of_ne_nil hne
    | or => simp
    | unknown => simp

/-- The order of the verdicts does not matter, nor how often each of them is given. -/
theorem isMatch_congr (hconnective : t.connective = t'.connective)
    (hverdicts : ∀ b, b ∈ t.verdicts r ↔ b ∈ t'.verdicts r) : t.isMatch r = t'.isMatch r := by
  rw [Bool.eq_iff_iff, isMatch_iff, isMatch_iff, hconnective, hverdicts, hverdicts]

theorem isMatch_of_isEmpty (h : t.isEmpty = true) (r : Resource α) : t.isMatch r = false := by
  rw [isMatch_eq]
  exact if_pos h

/-! ## A tree sees a resource through its conditions -/

/-- A node that matches one resource matches another one for which no part of it fails that held. -/
theorem isMatch_of_parts (hconditions : ∀ c ∈ t.conditions, c.holds r = true → c.holds s = true)
    (hgroups : ∀ g ∈ t.groups, g.isMatch r = true → g.isMatch s = true)
    (h : t.isMatch r = true) : t.isMatch s = true := by
  have htrue : true ∈ t.verdicts r → true ∈ t.verdicts s := by
    simp only [mem_verdicts]
    rintro (⟨c, hc, hr⟩ | ⟨g, hg, hr⟩)
    · exact .inl ⟨c, hc, hconditions c hc hr⟩
    · exact .inr ⟨g, hg, hgroups g hg hr⟩
  have hfalse : false ∈ t.verdicts s → false ∈ t.verdicts r := by
    simp only [mem_verdicts, ← Bool.not_eq_true]
    rintro (⟨c, hc, hs⟩ | ⟨g, hg, hs⟩)
    · exact .inl ⟨c, hc, fun hr => hs (hconditions c hc hr)⟩
    · exact .inr ⟨g, hg, fun hr => hs (hgroups g hg hr)⟩
  obtain ⟨hknown, hsome, hnone⟩ := isMatch_iff.mp h
  exact isMatch_iff.mpr ⟨hknown, htrue hsome, fun hand hs => hnone hand (hfalse hs)⟩

theorem isMatch_mono : ∀ {t : RuleTree},
    (∀ c ∈ t.allConditions, c.holds r = true → c.holds s = true) →
      t.isMatch r = true → t.isMatch s = true
  | ⟨connective, conditions, groups⟩, hholds => by
    have hgroups : ∀ g ∈ groups, g.isMatch r = true → g.isMatch s = true := by
      intro g hg
      exact isMatch_mono fun c hc => hholds c (mem_allConditions.mpr (.inr ⟨g, hg, hc⟩))
    exact isMatch_of_parts (fun c hc => hholds c (mem_allConditions.mpr (.inl hc))) hgroups

theorem exists_holds_of_isMatch : ∀ {t : RuleTree},
    t.isMatch r = true → ∃ c ∈ t.allConditions, c.holds r = true
  | ⟨connective, conditions, groups⟩, h => by
    rcases mem_verdicts.mp (isMatch_iff.mp h).2.1 with ⟨c, hc, hholds⟩ | ⟨g, hg, hmatch⟩
    · exact ⟨c, mem_allConditions.mpr (.inl hc), hholds⟩
    · obtain ⟨c, hc, hholds⟩ := exists_holds_of_isMatch hmatch
      exact ⟨c, mem_allConditions.mpr (.inr ⟨g, hg, hc⟩), hholds⟩

/-- A tree sees a resource only through its conditions: it still matches where more of them hold, it
decides alike where the same ones hold, and it matches nothing of which none of them holds. -/
theorem matches_through_conditions (t : RuleTree) (r s : Resource α) :
    ((∀ c ∈ t.allConditions, c.holds r = true → c.holds s = true) →
      t.isMatch r = true → t.isMatch s = true) ∧
    ((∀ c ∈ t.allConditions, c.holds r = c.holds s) → t.isMatch r = t.isMatch s) ∧
    (t.isMatch r = true → ∃ c ∈ t.allConditions, c.holds r = true) := by
  refine ⟨isMatch_mono, ?_, exists_holds_of_isMatch⟩
  intro hsame
  have hthere : t.isMatch r = true → t.isMatch s = true :=
    isMatch_mono fun c hc hr => hsame c hc ▸ hr
  have hback : t.isMatch s = true → t.isMatch r = true :=
    isMatch_mono fun c hc hs => (hsame c hc).symm ▸ hs
  exact Bool.eq_iff_iff.mpr ⟨hthere, hback⟩

end RuleTree

namespace Sample

/-- A tree of three levels, with one condition on each of them. -/
def layered : RuleTree :=
  ⟨.and, [⟨.ofAttribute .name, .equals, "web"⟩],
    [⟨.or, [⟨.ofAttribute .region, .equals, "north"⟩],
      [⟨.and, [⟨.ofAttribute .kind, .notEquals, "vm"⟩], []⟩]⟩]⟩

/-- A machine of the same name, in the region that the tree asks for. -/
def northMachine : Resource Rat := { machine with region := "north" }

/-- A machine that the tree cannot tell from the first one. -/
def ownedMachine : Resource Rat := { machine with owner := "ops" }

end Sample

namespace RuleTree

theorem matches_through_conditions_layered :
    (∀ c ∈ Sample.layered.allConditions,
      c.holds Sample.machine = true → c.holds Sample.northMachine = true) ∧
    (∀ c ∈ Sample.layered.allConditions,
      c.holds Sample.machine = c.holds Sample.ownedMachine) ∧
    Sample.layered.isMatch Sample.machine = true ∧
    Sample.layered.isMatch Sample.northMachine = true ∧
    Sample.layered.isMatch Sample.ownedMachine = true ∧
    ∃ c ∈ Sample.layered.allConditions, c.holds Sample.machine = true := by
  have hmore : ∀ c ∈ Sample.layered.allConditions,
      c.holds Sample.machine = true → c.holds Sample.northMachine = true := by decide
  have hsame : ∀ c ∈ Sample.layered.allConditions,
      c.holds Sample.machine = c.holds Sample.ownedMachine := by decide
  have hmatch : Sample.layered.isMatch Sample.machine = true := by decide
  obtain ⟨hgrown, -, hsome⟩ :=
    matches_through_conditions Sample.layered Sample.machine Sample.northMachine
  obtain ⟨-, howned, -⟩ :=
    matches_through_conditions Sample.layered Sample.machine Sample.ownedMachine
  exact ⟨hmore, hsame, hmatch, hgrown hmore hmatch, (howned hsame).symm.trans hmatch, hsome hmatch⟩

/-! ## Trees without conditions -/

variable {α : Type} [Scalar α] {t : RuleTree}

theorem isMatch_of_conditionCount_eq_zero (h : t.conditionCount = 0) (r : Resource α) :
    t.isMatch r = false := by
  have hnone : t.allConditions = [] := by
    rw [← List.length_eq_zero_iff, length_allConditions, h]
  rw [← Bool.not_eq_true]
  intro hmatch
  obtain ⟨c, hc, -⟩ := exists_holds_of_isMatch hmatch
  rw [hnone] at hc
  cases hc

end RuleTree

namespace Profile

variable {α : Type} [Scalar α]

theorem mem_problemIf {condition : Bool} {problem problem' : Problem} :
    problem' ∈ problemIf condition problem ↔ condition = true ∧ problem' = problem := by
  cases condition <;> simp [problemIf]

theorem conditionMissing_not_mem_componentProblems (p : Profile α) :
    .conditionMissing ∉ p.componentProblems := by
  have hlist {ι : Type} {list : ItemList} {name : ι → String} {price : ι → α} {items : List ι} :
      .conditionMissing ∉ listProblems list name price items := by
    simp [listProblems, itemProblems, mem_problemIf]
  unfold componentProblems
  cases p.model <;> simp [mem_problemIf, hlist]

theorem conditionMissing_mem_problems_iff {p : Profile α} :
    .conditionMissing ∈ p.problems ↔ p.rules.conditionCount = 0 := by
  have hcomponents := p.conditionMissing_not_mem_componentProblems
  simp [problems, mem_problemIf, hcomponents]

/-- A tree without conditions matches nothing, however its nodes are joined and nested. So a profile
that is not valid for want of a condition prices no resource, published or not, and no resource of any
population shares its pools. -/
theorem no_condition_no_match :
    (∀ (t : RuleTree) (r : Resource α), t.conditionCount = 0 → t.isMatch r = false) ∧
    ∀ p : Profile α, .conditionMissing ∈ p.problems →
      (∀ (r : Resource α) (profiles : List (Profile α)), match? r profiles ≠ some p) ∧
      ∀ (w : Weights α) (population : List (Resource α)),
        PoolTotals.compute w p.rules population = .none := by
  refine ⟨fun t r h => RuleTree.isMatch_of_conditionCount_eq_zero h r, fun p hp => ?_⟩
  have hnever (r : Resource α) : p.rules.isMatch r = false :=
    RuleTree.isMatch_of_conditionCount_eq_zero (conditionMissing_mem_problems_iff.mp hp) r
  constructor
  · intro r profiles hmatch
    obtain ⟨i, hwins, rfl⟩ := match?_eq_some_iff.mp hmatch
    exact Bool.false_ne_true ((hnever r).symm.trans hwins.applies)
  · intro w population
    have hmembers : (population.filter fun r => p.rules.isMatch r) = [] :=
      List.filter_eq_nil_iff.mpr fun r _ => by rw [hnever r]; exact Bool.false_ne_true
    rw [PoolTotals.compute, hmembers]
    rfl

end Profile

namespace Sample

/-- A tree of three levels in which no condition stands. -/
def hollow : RuleTree :=
  ⟨.and, [], [⟨.or, [], [.empty, ⟨.and, [], []⟩]⟩, ⟨.unknown, [], [.empty]⟩]⟩

end Sample

theorem Profile.no_condition_no_match_hollow :
    let p := Sample.profile .published 1 Sample.hollow
    Sample.hollow.conditionCount = 0 ∧ Sample.hollow.isMatch Sample.machine = false ∧
      .conditionMissing ∈ p.problems ∧
      match? Sample.machine [p, Sample.profile .published 2 Sample.everything] ≠ some p ∧
      PoolTotals.compute .standard p.rules [Sample.machine] = .none := by
  intro p
  have hcount : Sample.hollow.conditionCount = 0 := by decide
  have hproblem : .conditionMissing ∈ p.problems := conditionMissing_mem_problems_iff.mpr hcount
  obtain ⟨htree, hprofile⟩ := no_condition_no_match (α := Rat)
  obtain ⟨hmatch, hpool⟩ := hprofile p hproblem
  exact ⟨hcount, htree _ _ hcount, hproblem, hmatch _ _, hpool _ _⟩

end Chargeback
