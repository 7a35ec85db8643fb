import Chargeback.Rule.Condition

/-!
# Rule trees

A rule tree says which resources a profile applies to. A node joins its conditions and child trees
by "and" or "or". A node with neither matches nothing, at any depth, so that a half-written profile
does not capture every resource.
-/

namespace Chargeback

/-- How the parts of a node are joined. -/
inductive Connective where
  | and
  | or
  /-- A connective that no rule knows; its node matches nothing. -/
  | unknown
deriving DecidableEq, Repr

/-- A node of conditions and child trees. -/
structure RuleTree where
  /-- How the parts are joined. -/
  connective : Connective
  /-- The conditions of this node. -/
  conditions : List Condition
  /-- The child trees. -/
  groups : List RuleTree

namespace RuleTree

/-- The tree without any part. -/
def empty : RuleTree := ⟨.and, [], []⟩

instance : Inhabited RuleTree := ⟨empty⟩

/-- Whether a node has no part. -/
def isEmpty (t : RuleTree) : Bool := t.conditions.isEmpty && t.groups.isEmpty

mutual

/-- The number of conditions in a tree. -/
def conditionCount : RuleTree → Nat
  | ⟨_, conditions, groups⟩ => conditions.length + conditionCounts groups

/-- The number of conditions in a list of trees. -/
def conditionCounts : List RuleTree → Nat
  | [] => 0
  | t :: rest => conditionCount t + conditionCounts rest

end

variable {α : Type} [Scalar α]

mutual

/-- Whether a tree matches a resource. -/
def isMatch (r : Resource α) : RuleTree → Bool
  | ⟨connective, conditions, groups⟩ =>
    if conditions.isEmpty && groups.isEmpty then false
    else match connective with
      | .and => conditions.all (·.holds r) && allMatch r groups
      | .or => conditions.any (·.holds r) || anyMatch r groups
      | .unknown => false

/-- Whether all trees of a list match a resource. -/
def allMatch (r : Resource α) : List RuleTree → Bool
  | [] => true
  | t :: rest => isMatch r t && allMatch r rest

/-- Whether some tree of a list matches a resource. -/
def anyMatch (r : Resource α) : List RuleTree → Bool
  | [] => false
  | t :: rest => isMatch r t || anyMatch r rest

end

end RuleTree

/-! ## Documents -/

namespace Connective

/-- The name of a connective. -/
def name : Connective → String
  | .and => "AND"
  | .or => "OR"
  | .unknown => "Unknown"

/-- The connective of a name; every other name is unknown. -/
def ofName (name : String) : Connective :=
  if name = "AND" ∨ name = "and" then .and
  else if name = "OR" ∨ name = "or" then .or
  else .unknown

end Connective

namespace RuleTree

mutual

/-- The document of a tree. The child trees are left out when there are none. -/
def toJson : RuleTree → Json
  | ⟨connective, conditions, []⟩ =>
    .obj [("operator", .str connective.name), ("conditions", .ofList Condition.toJson conditions)]
  | ⟨connective, conditions, groups⟩ =>
    .obj [("operator", .str connective.name), ("conditions", .ofList Condition.toJson conditions),
      ("groups", .arr (toJsons groups))]

/-- The documents of a list of trees. -/
def toJsons : List RuleTree → List Json
  | [] => []
  | t :: rest => toJson t :: toJsons rest

end

/-- Reads a tree whose document is at most so many values deep. -/
def readWithin? : Nat → Json → Option RuleTree
  | 0, _ => none
  | depth + 1, j => do
    guard (j.isRecord 3)
    let connective ← j.optional? 0 ["operator"] .and fun v => v.variant?.map Connective.ofName
    let conditions ← j.optional? 1 ["conditions"] [] (Json.list? Condition.read?)
    let groups ← j.optional? 2 ["groups"] [] (Json.list? (readWithin? depth))
    return { connective, conditions, groups }

/-- Reads a tree. Every part may be missing. -/
def read? (j : Json) : Option RuleTree := readWithin? (j.depth + 1) j

end RuleTree

end Chargeback
