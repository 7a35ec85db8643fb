import Mathlib.Logic.Relation
import Chargeback.Proofs.RuleTrees

/-!
# Trees that say the same

A rule tree can be rewritten in ways that do not change what it matches: its parts may be reordered and
repeated, a child tree may be merged into a parent of the same connective, and a child tree without parts
may be dropped from an "or". Because a node without parts matches nothing, two of these ways are bound to
a condition. A child that is merged must have a part, or an "and" would lose a part that fails; and for
the same reason nothing may be dropped from an "and". Each way keeps the verdict of the node where it is
taken, so it keeps the verdicts of all nodes above.
-/

namespace Chargeback

namespace RuleTree

/-- One rewriting of a tree, at any of its nodes. -/
inductive Restructures : RuleTree → RuleTree → Prop where
  /-- The conditions of a node come in another order. -/
  | permuteConditions {k : Connective} {conditions conditions' : List Condition}
      {groups : List RuleTree} (h : conditions.Perm conditions') :
      Restructures ⟨k, conditions, groups⟩ ⟨k, conditions', groups⟩
  /-- The child trees of a node come in another order. -/
  | permuteGroups {k : Connective} {conditions : List Condition} {groups groups' : List RuleTree}
      (h : groups.Perm groups') : Restructures ⟨k, conditions, groups⟩ ⟨k, conditions, groups'⟩
  /-- A condition of a node is repeated, at any place. -/
  | repeatCondition {k : Connective} {front back : List Condition} {groups : List RuleTree}
      {c : Condition} (h : c ∈ front ++ back) :
      Restructures ⟨k, front ++ back, groups⟩ ⟨k, front ++ c :: back, groups⟩
  /-- A child tree of a node is repeated, at any place. -/
  | repeatGroup {k : Connective} {conditions : List Condition} {front back : List RuleTree}
      {g : RuleTree} (h : g ∈ front ++ back) :
      Restructures ⟨k, conditions, front ++ back⟩ ⟨k, conditions, front ++ g :: back⟩
  /-- A child tree that has a part joins its parts to those of its parent. -/
  | merge {k : Connective} {conditions : List Condition} {front back : List RuleTree} {g : RuleTree}
      (hknown : k = .and ∨ k = .or) (hsame : g.connective = k) (hparts : g.isEmpty = false) :
      Restructures ⟨k, conditions, front ++ g :: back⟩
        ⟨k, conditions ++ g.conditions, front ++ back ++ g.groups⟩
  /-- A child tree without parts is dropped from an "or". -/
  | dropEmpty {conditions : List Condition} {front back : List RuleTree} {g : RuleTree}
      (h : g.isEmpty = true) :
      Restructures ⟨.or, conditions, front ++ g :: back⟩ ⟨.or, conditions, front ++ back⟩
  /-- A child tree is rewritten. -/
  | inside {k : Connective} {conditions : List Condition} {front back : List RuleTree}
      {g g' : RuleTree} (h : Restructures g g') :
      Restructures ⟨k, conditions, front ++ g :: back⟩ ⟨k, conditions, front ++ g' :: back⟩

variable {α : Type} [Scalar α] {r : Resource α} {k : Connective} {conditions : List Condition}
  {front back : List RuleTree} {g g' : RuleTree}

/-! ## One rewriting -/

/-- A node is decided by its connective and by which parts it has. -/
theorem isMatch_eq_of_mem_iff {conditions conditions' : List Condition} {groups groups' : List RuleTree}
    (hconditions : ∀ c, c ∈ conditions ↔ c ∈ conditions') (hgroups : ∀ g, g ∈ groups ↔ g ∈ groups') :
    isMatch r ⟨k, conditions, groups⟩ = isMatch r ⟨k, conditions', groups'⟩ := by
  refine isMatch_congr rfl fun b => ?_
  simp only [mem_verdicts, hconditions, hgroups]

theorem mem_repeated_iff {ι : Type} {front back : List ι} {x : ι} (h : x ∈ front ++ back) (y : ι) :
    y ∈ front ++ back ↔ y ∈ front ++ x :: back := by
  simp only [List.mem_append, List.mem_cons] at h ⊢
  constructor
  · exact Or.imp_right .inr
  · rintro (hy | rfl | hy)
    · exact .inl hy
    · exact h
    · exact .inr hy

/-- The verdicts on a node are those on one of its child trees and on the other parts. -/
theorem mem_verdicts_child {b : Bool} :
    b ∈ verdicts r ⟨k, conditions, front ++ g :: back⟩ ↔
      g.isMatch r = b ∨ b ∈ verdicts r ⟨k, conditions, front ++ back⟩ := by
  simp only [mem_verdicts, List.mem_append, List.mem_cons]
  grind

/-- A node that takes over the parts of another one takes over the verdicts on them. -/
theorem mem_verdicts_merged {b : Bool} :
    b ∈ verdicts r ⟨k, conditions ++ g.conditions, front ++ back ++ g.groups⟩ ↔
      b ∈ g.verdicts r ∨ b ∈ verdicts r ⟨k, conditions, front ++ back⟩ := by
  simp only [mem_verdicts, List.mem_append]
  grind

theorem isMatch_inside (h : g.isMatch r = g'.isMatch r) :
    isMatch r ⟨k, conditions, front ++ g :: back⟩ = isMatch r ⟨k, conditions, front ++ g' :: back⟩ := by
  refine isMatch_congr rfl fun b => ?_
  rw [mem_verdicts_child, mem_verdicts_child, h]

theorem isMatch_dropEmpty (h : g.isEmpty = true) :
    isMatch r ⟨.or, conditions, front ++ g :: back⟩ = isMatch r ⟨.or, conditions, front ++ back⟩ := by
  -- Under "or" a verdict that does not hold adds nothing.
  have hfails := isMatch_of_isEmpty h r
  rw [Bool.eq_iff_iff, isMatch_iff, isMatch_iff, mem_verdicts_child, hfails]
  simp

theorem isMatch_merge (hknown : k = .and ∨ k = .or) (hsame : g.connective = k)
    (hparts : g.isEmpty = false) :
    isMatch r ⟨k, conditions, front ++ g :: back⟩ =
      isMatch r ⟨k, conditions ++ g.conditions, front ++ back ++ g.groups⟩ := by
  have hholds : g.isMatch r = true ↔
      true ∈ g.verdicts r ∧ (k = .and → false ∉ g.verdicts r) := by
    rw [isMatch_iff, hsame]
    rcases hknown with rfl | rfl <;> simp
  have hsome : false ∉ g.verdicts r → true ∈ g.verdicts r := by
    refine true_mem_of_ne_nil fun hnil => ?_
    rw [verdicts_eq_nil_iff, hparts] at hnil
    cases hnil
  rw [Bool.eq_iff_iff, isMatch_iff, isMatch_iff, mem_verdicts_child, mem_verdicts_child,
    mem_verdicts_merged, mem_verdicts_merged, hholds]
  rcases hknown with rfl | rfl
  · -- A child that has parts fails under "and" exactly if one of them fails.
    have hfails : g.isMatch r = false ↔ false ∈ g.verdicts r := by
      rw [← Bool.not_eq_true, hholds]
      grind
    rw [hfails]
    grind
  · -- Under "or" nothing counts but the parts that hold.
    grind

theorem Restructures.isMatch_eq {t t' : RuleTree} (h : Restructures t t') (r : Resource α) :
    t.isMatch r = t'.isMatch r := by
  induction h with
  | permuteConditions h => exact isMatch_eq_of_mem_iff (fun _ => h.mem_iff) fun _ => .rfl
  | permuteGroups h => exact isMatch_eq_of_mem_iff (fun _ => .rfl) fun _ => h.mem_iff
  | repeatCondition h => exact isMatch_eq_of_mem_iff (mem_repeated_iff h) fun _ => .rfl
  | repeatGroup h => exact isMatch_eq_of_mem_iff (fun _ => .rfl) (mem_repeated_iff h)
  | merge hknown hsame hparts => exact isMatch_merge hknown hsame hparts
  | dropEmpty h => exact isMatch_dropEmpty h
  | inside _ ih => exact isMatch_inside ih

/-! ## Any number of rewritings -/

/-- However often a tree is rewritten, and at whichever of its nodes, it matches the same resources. -/
theorem restructured_matches_alike {t t' : RuleTree} (h : Relation.ReflTransGen Restructures t t')
    (r : Resource α) : t'.isMatch r = t.isMatch r := by
  induction h with
  | refl => rfl
  | tail _ hstep ih => exact (hstep.isMatch_eq r).symm.trans ih

end RuleTree

namespace Sample

/-- A condition that every resource meets that has no kind. -/
def unclassified : Condition := ⟨.ofAttribute .kind, .notEquals, "vm"⟩

/-- A condition on the name. -/
def web : Condition := ⟨.ofAttribute .name, .equals, "web"⟩

/-- A tree with a child that has no parts, and with a child tree that can be merged two levels down. -/
def nested : RuleTree :=
  ⟨.or, [⟨.ofAttribute .region, .equals, "north"⟩],
    [.empty, ⟨.and, [web], [⟨.and, [unclassified, web], []⟩]⟩]⟩

/-- The same tree without them. -/
def flattened : RuleTree :=
  ⟨.or, [⟨.ofAttribute .region, .equals, "north"⟩], [⟨.and, [unclassified, web, web], []⟩]⟩

/-- The child without parts goes first. Then the inner trees become one, whose conditions are
reordered. -/
theorem restructures_nested : Relation.ReflTransGen RuleTree.Restructures nested flattened := by
  have hdrop : RuleTree.Restructures nested
      ⟨.or, nested.conditions, [⟨.and, [web], [⟨.and, [unclassified, web], []⟩]⟩]⟩ :=
    @RuleTree.Restructures.dropEmpty nested.conditions [] _ .empty rfl
  have hmerge : RuleTree.Restructures ⟨.and, [web], [⟨.and, [unclassified, web], []⟩]⟩
      ⟨.and, [web, unclassified, web], []⟩ :=
    @RuleTree.Restructures.merge .and [web] [] [] ⟨.and, [unclassified, web], []⟩ (.inl rfl) rfl rfl
  have hpermute : RuleTree.Restructures ⟨.and, [web, unclassified, web], []⟩
      ⟨.and, [unclassified, web, web], []⟩ :=
    .permuteConditions (.swap unclassified web [web])
  have hinside {g g' : RuleTree} (h : RuleTree.Restructures g g') :
      RuleTree.Restructures ⟨.or, nested.conditions, [g]⟩ ⟨.or, nested.conditions, [g']⟩ :=
    @RuleTree.Restructures.inside .or nested.conditions [] [] g g' h
  exact .tail (.tail (.single hdrop) (hinside hmerge)) (hinside hpermute)

end Sample

theorem RuleTree.restructured_matches_alike_nested :
    Relation.ReflTransGen Restructures Sample.nested Sample.flattened ∧
      Sample.nested.isMatch Sample.machine = true ∧ Sample.flattened.isMatch Sample.machine = true := by
  have hmatch : Sample.nested.isMatch Sample.machine = true := by decide
  have halike := restructured_matches_alike Sample.restructures_nested Sample.machine
  exact ⟨Sample.restructures_nested, hmatch, halike.trans hmatch⟩

end Chargeback
