import Mathlib.Algebra.BigOperators.Group.List.Basic
import Chargeback.TextMap

/-!
# Looking up and adding up what maps hold

The only way in which a map grows is that one of its entries is altered. So a lookup behind a change
is the new value or the lookup in front of it, and what all entries are worth together changes by what
the altered entry gains. A map that is filled in a loop is described by these two facts, whatever keys
the loop meets and in whatever order it meets them.
-/

namespace Chargeback

/-- What every step of a loop adds to a quantity is added up over the loop. -/
theorem foldl_gain {σ ι M : Type} [AddMonoid M] {f : σ → M} {step : σ → ι → σ} {gain : ι → M}
    (hstep : ∀ s x, f (step s x) = f s + gain x) (s : σ) (l : List ι) :
    f (l.foldl step s) = f s + (l.map gain).sum := by
  induction l generalizing s with
  | nil => exact (add_zero _).symm
  | cons x rest ih => rw [List.foldl_cons, ih, hstep, List.map_cons, List.sum_cons, add_assoc]

namespace TextMap

variable {β M : Type}

/-! ## Looking up -/

theorem lookup_cons_eq_ite (key k : String) (v : β) (l : List (String × β)) :
    ((k, v) :: l).lookup key = if key = k then some v else l.lookup key := by
  rw [List.lookup_cons]
  by_cases h : key = k
  · simp [h]
  · simp [h, beq_false_of_ne h]

theorem mem_of_lookup_eq_some {key : String} {v : β} {l : List (String × β)}
    (h : l.lookup key = some v) : (key, v) ∈ l := by
  obtain ⟨front, back, rfl, -⟩ := List.lookup_eq_some_iff.mp h
  exact List.mem_append_right _ List.mem_cons_self

/-- A sorted list that starts behind a key does not hold it. -/
theorem lookup_eq_none_of_lt {key k : String} {v : β} {l : List (String × β)}
    (hl : ((k, v) :: l).Pairwise fun a b => a.1 < b.1) (hlt : key < k) :
    ((k, v) :: l).lookup key = none := by
  rw [List.lookup_eq_none_iff]
  intro e he
  have hkey : key < e.1 := by
    rcases List.mem_cons.mp he with rfl | he
    · exact hlt
    · exact String.lt_trans hlt ((List.pairwise_cons.mp hl).1 e he)
  rw [bne_iff_ne]
  intro heq
  exact String.lt_irrefl key (heq ▸ hkey)

theorem lookup_alterEntries (key other : String) (f : Option β → β) {l : List (String × β)}
    (hl : l.Pairwise fun a b => a.1 < b.1) :
    (alterEntries key f l).lookup other =
      if other = key then some (f (l.lookup key)) else l.lookup other := by
  induction l with
  | nil => rw [alterEntries, lookup_cons_eq_ite]; rfl
  | cons head rest ih =>
    obtain ⟨k, v⟩ := head
    have hrest := (List.pairwise_cons.mp hl).2
    rw [alterEntries]
    split
    · rename_i hlt
      rw [lookup_eq_none_of_lt hl hlt, lookup_cons_eq_ite]
    · split
      · rename_i heq
        subst heq
        simp only [lookup_cons_eq_ite, if_true]
        split
        · rfl
        · rfl
      · rename_i hne
        rw [lookup_cons_eq_ite, ih hrest, lookup_cons_eq_ite key, if_neg hne, lookup_cons_eq_ite]
        by_cases hk : other = k
        · rw [if_pos hk, if_pos hk, if_neg fun h => hne (h.symm.trans hk)]
        · rw [if_neg hk, if_neg hk]

theorem get?_alter (m : TextMap β) (key other : String) (f : Option β → β) :
    (m.alter key f).get? other = if other = key then some (f (m.get? key)) else m.get? other :=
  lookup_alterEntries key other f m.sorted

/-! ## Comparing maps -/

theorem lookup_eq_none_of_head {k : String} {v : β} {rest : List (String × β)}
    (h : ((k, v) :: rest).Pairwise fun a b => a.1 < b.1) : rest.lookup k = none := by
  rw [List.lookup_eq_none_iff]
  intro e he
  rw [bne_iff_ne]
  intro heq
  exact String.lt_irrefl k (heq ▸ (List.pairwise_cons.mp h).1 e he)

theorem eq_of_lookup_eq {l l' : List (String × β)} (hl : l.Pairwise fun a b => a.1 < b.1)
    (hl' : l'.Pairwise fun a b => a.1 < b.1) (h : ∀ key, l.lookup key = l'.lookup key) :
    l = l' := by
  induction l generalizing l' with
  | nil =>
    cases l' with
    | nil => rfl
    | cons head' rest' =>
      have hhead := h head'.1
      rw [List.lookup_cons_self] at hhead
      cases hhead
  | cons head rest ih =>
    obtain ⟨k, v⟩ := head
    cases l' with
    | nil =>
      have hhead := h k
      rw [List.lookup_cons_self] at hhead
      cases hhead
    | cons head' rest' =>
      obtain ⟨k', v'⟩ := head'
      have hk := h k
      have hk' := h k'
      rw [List.lookup_cons_self] at hk hk'
      have hkeys : k = k' := by
        refine String.le_antisymm (String.not_lt.mp fun hlt => ?_)
          (String.not_lt.mp fun hlt => ?_)
        · rw [lookup_eq_none_of_lt hl hlt] at hk'
          cases hk'
        · rw [lookup_eq_none_of_lt hl' hlt] at hk
          cases hk
      subst hkeys
      rw [List.lookup_cons_self] at hk
      obtain rfl := Option.some.inj hk
      congr 1
      refine ih (List.pairwise_cons.mp hl).2 (List.pairwise_cons.mp hl').2 fun key => ?_
      by_cases hkey : key = k
      · rw [hkey, lookup_eq_none_of_head hl, lookup_eq_none_of_head hl']
      · have hrest := h key
        rwa [lookup_cons_eq_ite, lookup_cons_eq_ite, if_neg hkey, if_neg hkey] at hrest

/-- Maps that hold the same values are the same map. -/
theorem ext_get? {m m' : TextMap β} (h : ∀ key, m.get? key = m'.get? key) : m = m' :=
  TextMap.ext (eq_of_lookup_eq m.sorted m'.sorted h)

/-- Two changes can change places, if they do so where they meet the same entry. -/
theorem alter_alter_comm (m : TextMap β) {key key' : String} {f f' : Option β → β}
    (h : key = key' → ∀ old, f' (some (f old)) = f (some (f' old))) :
    (m.alter key f).alter key' f' = (m.alter key' f').alter key f := by
  refine ext_get? fun other => ?_
  simp only [get?_alter]
  by_cases hkeys : key = key'
  · subst hkeys
    by_cases hother : other = key
    · simp [hother, h rfl]
    · simp [hother]
  · have hne : key' ≠ key := fun heq => hkeys heq.symm
    by_cases hother : other = key
    · simp [hother, hkeys]
    · simp [hother, hne]

/-- What is put behind all smaller keys comes last. -/
theorem alterEntries_of_forall_lt {key : String} (f : Option β → β) {l : List (String × β)}
    (h : ∀ e ∈ l, e.1 < key) : alterEntries key f l = l ++ [(key, f none)] := by
  induction l with
  | nil => rfl
  | cons head rest ih =>
    obtain ⟨k, v⟩ := head
    have hlt : k < key := h (k, v) List.mem_cons_self
    have hne : ¬ key = k := fun heq => String.lt_irrefl k (heq ▸ hlt)
    rw [alterEntries, if_neg (String.lt_asymm hlt), if_neg hne,
      ih fun e he => h e (List.mem_cons_of_mem _ he)]
    rfl

/-- A map is filled with its entries in their order. -/
theorem ofList_entries (m : TextMap β) : ofList m.entries = m := by
  -- Whatever has been put in is smaller than what follows.
  suffices ∀ (l : List (String × β)) (filled : TextMap β),
      (filled.entries ++ l).Pairwise (fun a b => a.1 < b.1) →
        (l.foldl (fun m e => m.insert e.1 e.2) filled).entries = filled.entries ++ l by
    exact TextMap.ext (this m.entries empty m.sorted)
  intro l
  induction l with
  | nil => exact fun filled _ => (List.append_nil _).symm
  | cons e rest ih =>
    intro filled hsorted
    have hentries : (filled.insert e.1 e.2).entries = filled.entries ++ [e] := by
      refine alterEntries_of_forall_lt _ fun e' he' => ?_
      exact (List.pairwise_append.mp hsorted).2.2 e' he' e List.mem_cons_self
    rw [List.append_cons, ← hentries] at hsorted
    rw [List.foldl_cons, ih _ hsorted, hentries, ← List.append_cons]

/-! ## Adding up -/

section Total

variable [AddCommMonoid M]

/-- What the entries of a map are worth together. -/
def total (worth : β → M) (m : TextMap β) : M := (m.entries.map fun e => worth e.2).sum

theorem total_empty (worth : β → M) : (∅ : TextMap β).total worth = 0 := rfl

theorem sum_alterEntries (worth : β → M) (key : String) (f : Option β → β)
    {l : List (String × β)} (hl : l.Pairwise fun a b => a.1 < b.1) :
    ((alterEntries key f l).map fun e => worth e.2).sum + ((l.lookup key).map worth).getD 0 =
      (l.map fun e => worth e.2).sum + worth (f (l.lookup key)) := by
  induction l with
  | nil => simp [alterEntries]
  | cons head rest ih =>
    obtain ⟨k, v⟩ := head
    have hrest := (List.pairwise_cons.mp hl).2
    rw [alterEntries]
    split
    · rename_i hlt
      rw [lookup_eq_none_of_lt hl hlt, List.map_cons, List.sum_cons]
      exact (add_zero _).trans (add_comm _ _)
    · split
      · rename_i heq
        subst heq
        rw [lookup_cons_eq_ite, if_pos rfl, List.map_cons, List.sum_cons, List.map_cons,
          List.sum_cons]
        show worth (f (some v)) + _ + worth v = worth v + _ + worth (f (some v))
        rw [add_right_comm, add_comm (worth (f (some v))), add_right_comm]
      · rename_i hne
        rw [lookup_cons_eq_ite, if_neg hne, List.map_cons, List.sum_cons, List.map_cons,
          List.sum_cons, add_assoc, ih hrest, add_assoc]

/-- Altering an entry adds to what the map is worth what the entry gains. -/
theorem total_alter {M : Type} [AddCancelCommMonoid M] {worth : β → M} {key : String}
    {f : Option β → β} {m : TextMap β} {gain : M}
    (hgain : worth (f (m.get? key)) = ((m.get? key).map worth).getD 0 + gain) :
    (m.alter key f).total worth = m.total worth + gain := by
  have hsum : (m.alter key f).total worth + ((m.get? key).map worth).getD 0 =
      m.total worth + worth (f (m.get? key)) := sum_alterEntries worth key f m.sorted
  refine add_right_cancel (hsum.trans ?_)
  rw [hgain, add_comm (((m.get? key).map worth).getD 0), add_assoc]

end Total

end TextMap

end Chargeback
