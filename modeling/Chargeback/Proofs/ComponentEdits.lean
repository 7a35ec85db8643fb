import Chargeback.Proofs.Components
import Chargeback.Proofs.ListEdits
import Chargeback.Proofs.Matching

/-!
# One component has no effect on the others

The components of a profile are edited at one place: one of them is replaced, put in or deleted. Every
item of a breakdown is made from one component and from what the whole population has in common, which
the components do not change. So the items are edited in the same way as the components: at one place,
and the items around it stay as they are and keep their order, however odd the component at this place
may be.
-/

namespace Chargeback

/-! ## Components of either model -/

variable {α : Type}

/-- A component of a profile. -/
inductive Component (α : Type) where
  | rate (c : Rate α)
  | shared (c : SharedItem α)

/-- The components of the cost model of a profile, in the order in which they are charged. -/
def Profile.components (p : Profile α) : List (Component α) :=
  match p.model with
  | .simple => p.rates.map .rate
  | .advanced => p.shared.components.map .shared

theorem Profile.components_of_simple {p : Profile α} (h : p.model = .simple) :
    p.components = p.rates.map .rate := by
  rw [components, h]

theorem Profile.components_of_advanced {p : Profile α} (h : p.model = .advanced) :
    p.components = p.shared.hardware.map (fun c => .shared (.hardware c)) ++
      p.shared.operations.map (fun c => .shared (.running .operations c)) ++
      p.shared.facilities.map (fun c => .shared (.running .facilities c)) ++
      p.shared.software.map (fun c => .shared (.running .software c)) := by
  simp only [components, h, SharedItems.components, List.map_append, List.map_map]
  rfl

/-- The item that a component makes. -/
def Component.lineItem [Scalar α] (o : AllocationOptions α) (totals : PoolTotals α)
    (r : Resource α) : Component α → LineItem α
  | rate c => c.lineItem (max o.periods 1) r
  | shared c => c.lineItem o.weights totals r

theorem AllocationOptions.items_breakdown [Scalar α] (o : AllocationOptions α) (p : Profile α)
    (population : List (Resource α)) (r : Resource α) :
    (o.breakdown p population r).items =
      p.components.map (Component.lineItem o (o.poolTotals p population) r) := by
  rw [breakdown, Profile.components]
  cases hmodel : p.model with
  | simple =>
    simp only [breakdownWith, hmodel, List.map_map]
    rfl
  | advanced =>
    simp only [breakdownWith, hmodel, List.map_map, advancedBreakdown_items]
    rfl

/-! ## Edits of a profile -/

/-- A change of a profile: one of the lists of its components is changed at one place. -/
inductive ComponentEdit (α : Type) where
  | rates (e : ListEdit (Rate α))
  | hardware (e : ListEdit (Hardware α))
  | operations (e : ListEdit (Running α))
  | facilities (e : ListEdit (Running α))
  | software (e : ListEdit (Running α))

namespace ComponentEdit

/-- The list that is changed. -/
def list : ComponentEdit α → ItemList
  | rates _ => .rates
  | hardware _ => .hardware
  | operations _ => .operations
  | facilities _ => .facilities
  | software _ => .software

/-- The model that charges the components of the changed list. -/
def model : ComponentEdit α → CostModel
  | rates _ => .simple
  | _ => .advanced

/-- The profile behind a change. -/
def apply (p : Profile α) : ComponentEdit α → Profile α
  | rates e => { p with rates := e.apply p.rates }
  | hardware e => { p with shared := { p.shared with hardware := e.apply p.shared.hardware } }
  | operations e => { p with shared := { p.shared with operations := e.apply p.shared.operations } }
  | facilities e => { p with shared := { p.shared with facilities := e.apply p.shared.facilities } }
  | software e => { p with shared := { p.shared with software := e.apply p.shared.software } }

/-- The changed list has the component that is taken out. -/
def IsWithin (p : Profile α) : ComponentEdit α → Prop
  | rates e => e.IsWithin p.rates
  | hardware e => e.IsWithin p.shared.hardware
  | operations e => e.IsWithin p.shared.operations
  | facilities e => e.IsWithin p.shared.facilities
  | software e => e.IsWithin p.shared.software

/-- A charge at the start is put in or taken out. -/
def InvolvesOneTime (p : Profile α) : ComponentEdit α → Prop
  | rates e => ∃ c ∈ e.touched p.rates, c.basis = .oneTime
  | _ => False

/-- The change of the components, in the order in which they are charged. -/
def onComponents (p : Profile α) : ComponentEdit α → ListEdit (Component α)
  | rates e => e.within 0 .rate
  | hardware e => e.within 0 fun c => .shared (.hardware c)
  | operations e => e.within p.shared.hardware.length fun c => .shared (.running .operations c)
  | facilities e =>
    e.within (p.shared.hardware.length + p.shared.operations.length) fun c =>
      .shared (.running .facilities c)
  | software e =>
    e.within (p.shared.hardware.length + p.shared.operations.length + p.shared.facilities.length)
      fun c => .shared (.running .software c)

/-- A change of the components is a change of the list of all of them. -/
theorem components_apply {p : Profile α} {e : ComponentEdit α} (hmodel : e.model = p.model)
    (hwithin : e.IsWithin p) :
    (e.onComponents p).IsWithin p.components ∧
      (e.apply p).components = (e.onComponents p).apply p.components := by
  -- The changed list stands between the lists in front of it and those behind it.
  have hplaced {ι : Type} {f : ι → Component α} {change : ListEdit ι} {l : List ι} {front : Nat}
      {all : List (Component α)} (a b : List (Component α)) (hchange : change.IsWithin l)
      (hfront : a.length = front) (hbefore : p.components = a ++ l.map f ++ b)
      (hafter : all = a ++ (change.apply l).map f ++ b) :
      (change.within front f).IsWithin p.components ∧
        all = (change.within front f).apply p.components := by
    subst hfront
    rw [hbefore, hafter]
    exact ⟨ListEdit.isWithin_within hchange a b f, (ListEdit.within_apply hchange a b f).symm⟩
  let hardware := p.shared.hardware.map fun c => Component.shared (.hardware c)
  let operations := p.shared.operations.map fun c => Component.shared (.running .operations c)
  let facilities := p.shared.facilities.map fun c => Component.shared (.running .facilities c)
  let software := p.shared.software.map fun c => Component.shared (.running .software c)
  cases e with
  | rates e =>
    have hsimple : p.model = .simple := hmodel.symm
    refine hplaced [] [] hwithin rfl ?_ ?_
    · rw [List.nil_append, List.append_nil, Profile.components_of_simple hsimple]
    · rw [List.nil_append, List.append_nil, Profile.components_of_simple (by exact hsimple)]
      rfl
  | hardware e =>
    have hadvanced : p.model = .advanced := hmodel.symm
    refine hplaced [] (operations ++ (facilities ++ software)) hwithin rfl ?_ ?_
    · rw [Profile.components_of_advanced hadvanced, List.append_assoc, List.append_assoc]
      rfl
    · rw [Profile.components_of_advanced (by exact hadvanced), List.append_assoc,
        List.append_assoc]
      rfl
  | operations e =>
    have hadvanced : p.model = .advanced := hmodel.symm
    refine hplaced hardware (facilities ++ software) hwithin (List.length_map ..) ?_ ?_
    · rw [Profile.components_of_advanced hadvanced, List.append_assoc]
    · rw [Profile.components_of_advanced (by exact hadvanced), List.append_assoc]
      rfl
  | facilities e =>
    have hadvanced : p.model = .advanced := hmodel.symm
    refine hplaced (hardware ++ operations) software hwithin ?_
      (Profile.components_of_advanced hadvanced)
      (Profile.components_of_advanced (by exact hadvanced))
    rw [List.length_append, List.length_map, List.length_map]
  | software e =>
    have hadvanced : p.model = .advanced := hmodel.symm
    refine hplaced (hardware ++ operations ++ facilities) [] hwithin ?_ ?_ ?_
    · rw [List.length_append, List.length_append, List.length_map, List.length_map,
        List.length_map]
    · rw [Profile.components_of_advanced hadvanced, List.append_nil]
    · rw [Profile.components_of_advanced (by exact hadvanced), List.append_nil]
      rfl

theorem rules_apply (p : Profile α) (e : ComponentEdit α) : (e.apply p).rules = p.rules := by
  cases e <;> rfl

theorem model_apply (p : Profile α) (e : ComponentEdit α) : (e.apply p).model = p.model := by
  cases e <;> rfl

theorem hardware_apply (p : Profile α) {e : ComponentEdit α} (h : e.list ≠ .hardware) :
    (e.apply p).shared.hardware = p.shared.hardware := by
  cases e with
  | hardware e => exact absurd rfl h
  | rates e => rfl
  | operations e => rfl
  | facilities e => rfl
  | software e => rfl

theorem runningLists_apply (p : Profile α) {e : ComponentEdit α} (h : e.list = .hardware) :
    (e.apply p).shared.runningLists = p.shared.runningLists := by
  cases e with
  | hardware e => rfl
  | rates e => cases h
  | operations e => cases h
  | facilities e => cases h
  | software e => cases h

/-- The components that a change involves have a say in what is charged at the start only if one of
them is such a charge. -/
theorem filter_oneTime_apply {p : Profile α} {e : ComponentEdit α} (hwithin : e.IsWithin p)
    (honce : ¬ e.InvolvesOneTime p) :
    ((e.apply p).rates.filter fun c => c.basis = .oneTime) =
      p.rates.filter fun c => c.basis = .oneTime := by
  cases e with
  | rates e =>
    refine ListEdit.filter_apply hwithin fun c hc => ?_
    have hbasis : c.basis ≠ .oneTime := fun h => honce ⟨c, hc, h⟩
    exact decide_eq_false hbasis
  | hardware e => rfl
  | operations e => rfl
  | facilities e => rfl
  | software e => rfl

end ComponentEdit

/-! ## What the other components are charged -/

namespace AllocationOptions

variable [Scalar α] (o : AllocationOptions α) (population : List (Resource α)) (r : Resource α)

theorem oneTime_breakdown_simple {p : Profile α} (h : p.model = .simple) :
    (o.breakdown p population r).oneTime =
      Scalar.sum ((p.rates.filter fun c => c.basis = .oneTime).map Rate.value) := by
  simp only [breakdown, breakdownWith, h, simpleBreakdown]

theorem breakdown_of_advanced {p : Profile α} (h : p.model = .advanced) :
    o.breakdown p population r = advancedBreakdown o.weights (o.poolTotals p population) p r := by
  simp only [breakdown, breakdownWith, h]

theorem capex_advancedBreakdown (w : Weights α) (totals : PoolTotals α) (p : Profile α) :
    (advancedBreakdown w totals p r).capex =
      Scalar.sum ((p.shared.hardware.map (·.lineItem w totals r)).map LineItem.value) :=
  rfl

theorem opex_advancedBreakdown (w : Weights α) (totals : PoolTotals α) (p : Profile α) :
    (advancedBreakdown w totals p r).opex =
      Scalar.sum ((p.shared.runningLists.flatMap fun (list, items) =>
        items.map (·.lineItem w totals r list)).map LineItem.value) :=
  rfl

section Edited

variable {p : Profile α} {e : ComponentEdit α}

/-- What the whole population has in common does not depend on the components. -/
theorem poolTotals_apply (p : Profile α) (e : ComponentEdit α) :
    o.poolTotals (e.apply p) population = o.poolTotals p population := by
  rw [poolTotals, poolTotals, ComponentEdit.rules_apply]

theorem items_breakdown_apply (hmodel : e.model = p.model) (hwithin : e.IsWithin p) :
    (o.breakdown (e.apply p) population r).items = ((e.onComponents p).apply p.components).map
      (Component.lineItem o (o.poolTotals p population) r) := by
  rw [items_breakdown, poolTotals_apply, (ComponentEdit.components_apply hmodel hwithin).2]

theorem oneTime_breakdown_apply (hwithin : e.IsWithin p) (honce : ¬ e.InvolvesOneTime p) :
    (o.breakdown (e.apply p) population r).oneTime = (o.breakdown p population r).oneTime := by
  have hmodel := ComponentEdit.model_apply p e
  cases hp : p.model with
  | simple =>
    rw [oneTime_breakdown_simple o population r hp,
      oneTime_breakdown_simple o population r (hmodel.trans hp),
      ComponentEdit.filter_oneTime_apply hwithin honce]
  | advanced =>
    rw [breakdown_of_advanced o population r hp,
      breakdown_of_advanced o population r (hmodel.trans hp)]
    rfl

theorem opex_breakdown_apply (hp : p.model = .advanced) (hlist : e.list = .hardware) :
    (o.breakdown (e.apply p) population r).opex = (o.breakdown p population r).opex := by
  have hp' : (e.apply p).model = .advanced := (ComponentEdit.model_apply p e).trans hp
  rw [breakdown_of_advanced o population r hp, breakdown_of_advanced o population r hp',
    poolTotals_apply, opex_advancedBreakdown, opex_advancedBreakdown,
    ComponentEdit.runningLists_apply p hlist]

theorem capex_breakdown_apply (hp : p.model = .advanced) (hlist : e.list ≠ .hardware) :
    (o.breakdown (e.apply p) population r).capex = (o.breakdown p population r).capex := by
  have hp' : (e.apply p).model = .advanced := (ComponentEdit.model_apply p e).trans hp
  rw [breakdown_of_advanced o population r hp, breakdown_of_advanced o population r hp',
    poolTotals_apply, capex_advancedBreakdown, capex_advancedBreakdown,
    ComponentEdit.hardware_apply p hlist]

end Edited

/-- A component that is replaced, put in or deleted has no effect on the others. Each of them makes
the item that it made, in the same order, and no item is made by anything else. What is charged at
the start changes only by a charge at the start, and of investments and running costs only the side
of the component changes. -/
theorem breakdown_edited (p : Profile α) (e : ComponentEdit α) (hmodel : e.model = p.model)
    (hwithin : e.IsWithin p) :
    let edit := e.onComponents p
    let before := o.breakdown p population r
    let after := o.breakdown (e.apply p) population r
    (∀ j, edit.Spares j → (e.apply p).components[edit.moved j]? = p.components[j]? ∧
        after.items[edit.moved j]? = before.items[j]?) ∧
      (∀ j k, edit.Spares j → edit.Spares k → j < k → edit.moved j < edit.moved k) ∧
      after.items.length + edit.removed = before.items.length + edit.added.length ∧
      (¬ e.InvolvesOneTime p → after.oneTime = before.oneTime) ∧
      (p.model = .advanced → (e.list = .hardware → after.opex = before.opex) ∧
        (e.list ≠ .hardware → after.capex = before.capex)) := by
  intro edit before after
  obtain ⟨hedit, hcomponents⟩ := ComponentEdit.components_apply hmodel hwithin
  have hbefore := items_breakdown o p population r
  have hafter := items_breakdown_apply o population r hmodel hwithin
  refine ⟨fun j hj => ?_, fun j k => ListEdit.moved_lt_moved, ?_,
    oneTime_breakdown_apply o population r hwithin, fun hp =>
      ⟨opex_breakdown_apply o population r hp, capex_breakdown_apply o population r hp⟩⟩
  · have hmoved : (edit.apply p.components)[edit.moved j]? = p.components[j]? :=
      ListEdit.getElem?_apply hedit hj
    refine ⟨hcomponents ▸ hmoved, ?_⟩
    rw [hbefore, hafter, List.getElem?_map, List.getElem?_map, hmoved]
  · rw [hbefore, hafter, List.length_map, List.length_map]
    exact ListEdit.length_apply hedit

end AllocationOptions

namespace Sample

/-- A profile with a piece of hardware and a monthly cost. -/
def housed : Profile Rat :=
  { profile .published 1 everything with
    model := .advanced
    shared :=
      { SharedItems.empty with
        hardware := [⟨"Server", 2400, 4, .perCpu, ""⟩]
        operations := [⟨"Power", 240, .perVm, ""⟩] } }

/-- A monthly cost without a name, below zero and divided in an unknown way, is put in front of the
others. -/
def oddCost : ComponentEdit Rat := .operations (.insert 0 ⟨"", -1, .unknown, ""⟩)

end Sample

theorem AllocationOptions.breakdown_edited_odd :
    let before := AllocationOptions.standard.breakdown Sample.housed [Sample.machine] Sample.machine
    let after := AllocationOptions.standard.breakdown (Sample.oddCost.apply Sample.housed)
      [Sample.machine] Sample.machine
    after.items[0]? = before.items[0]? ∧ after.items[2]? = before.items[1]? ∧
      after.oneTime = before.oneTime ∧ after.capex = before.capex ∧
      after.items.map LineItem.degraded = [false, true, false] := by
  have hwithin : Sample.oddCost.IsWithin Sample.housed := Nat.zero_le 1
  obtain ⟨hitems, -, -, honce, hsides⟩ := AllocationOptions.breakdown_edited .standard
    [Sample.machine] Sample.machine Sample.housed Sample.oddCost rfl hwithin
  have hserver : (Sample.oddCost.onComponents Sample.housed).Spares 0 := Or.inl (by decide)
  have hpower : (Sample.oddCost.onComponents Sample.housed).Spares 1 := Or.inr (by decide)
  exact ⟨(hitems 0 hserver).2, (hitems 1 hpower).2, honce id, (hsides rfl).2 (by decide),
    by decide +kernel⟩

end Chargeback
