/-!
# Maps from texts

A `TextMap` holds at most one value for each key and lists its keys in order of their code points.
The order is part of the type, so two maps that hold the same values are equal, and every report
made from a map lists its keys in one order.
-/

namespace Chargeback

/-- A finite map from texts to values, as its entries in the order of their keys. -/
structure TextMap (β : Type) where
  /-- The keys and their values. -/
  entries : List (String × β)
  /-- The keys increase, so each occurs once. -/
  sorted : entries.Pairwise (fun a b => a.1 < b.1)
deriving DecidableEq

namespace TextMap

variable {β γ : Type}

@[ext]
theorem ext {a b : TextMap β} (h : a.entries = b.entries) : a = b := by
  cases a; cases b; simp_all

/-- The map without entries. -/
def empty : TextMap β := ⟨[], .nil⟩

instance : EmptyCollection (TextMap β) := ⟨empty⟩

instance : Inhabited (TextMap β) := ⟨empty⟩

/-- Puts `f` of the value at a key in its place, within a sorted list of entries. -/
def alterEntries (key : String) (f : Option β → β) : List (String × β) → List (String × β)
  | [] => [(key, f none)]
  | (k, v) :: rest =>
    if key < k then (key, f none) :: (k, v) :: rest
    else if key = k then (k, f (some v)) :: rest
    else (k, v) :: alterEntries key f rest

/-- Changing one entry adds no key but its own. -/
theorem fst_of_mem_alterEntries {key : String} {f : Option β → β} {l : List (String × β)}
    {e : String × β} (h : e ∈ alterEntries key f l) : e.1 = key ∨ ∃ e' ∈ l, e'.1 = e.1 := by
  induction l with
  | nil => simp_all [alterEntries]
  | cons head rest ih =>
    obtain ⟨k, v⟩ := head
    rw [alterEntries] at h
    split at h
    · rcases List.mem_cons.mp h with rfl | h
      · exact .inl rfl
      · exact .inr ⟨e, h, rfl⟩
    · split at h
      · rcases List.mem_cons.mp h with rfl | h
        · exact .inr ⟨(k, v), by simp, rfl⟩
        · exact .inr ⟨e, by simp [h], rfl⟩
      · rcases List.mem_cons.mp h with rfl | h
        · exact .inr ⟨(k, v), by simp, rfl⟩
        · rcases ih h with h | ⟨e', he', heq⟩
          · exact .inl h
          · exact .inr ⟨e', by simp [he'], heq⟩

/-- Changing one entry keeps the order of the keys. -/
theorem pairwise_alterEntries (key : String) (f : Option β → β) {l : List (String × β)}
    (h : l.Pairwise (fun a b => a.1 < b.1)) :
    (alterEntries key f l).Pairwise (fun a b => a.1 < b.1) := by
  induction l with
  | nil => simp [alterEntries]
  | cons head rest ih =>
    obtain ⟨k, v⟩ := head
    obtain ⟨hhead, hrest⟩ := List.pairwise_cons.mp h
    rw [alterEntries]
    split
    · rename_i hlt
      refine List.pairwise_cons.mpr ⟨fun e he => ?_, h⟩
      rcases List.mem_cons.mp he with rfl | he
      · exact hlt
      · exact String.lt_trans hlt (hhead e he)
    · rename_i hlt
      split
      · exact List.pairwise_cons.mpr ⟨hhead, hrest⟩
      · rename_i hne
        have hgt : k < key :=
          String.not_le.mp fun hle => hne (String.le_antisymm hle (String.not_lt.mp hlt))
        refine List.pairwise_cons.mpr ⟨fun e he => ?_, ih hrest⟩
        rcases fst_of_mem_alterEntries he with heq | ⟨e', he', heq⟩
        · exact heq ▸ hgt
        · exact heq ▸ hhead e' he'

/-- Puts `f` of the value at a key, if it has one, in its place. -/
def alter (m : TextMap β) (key : String) (f : Option β → β) : TextMap β :=
  ⟨alterEntries key f m.entries, pairwise_alterEntries key f m.sorted⟩

/-- Sets the value at a key. -/
def insert (m : TextMap β) (key : String) (value : β) : TextMap β := m.alter key fun _ => value

/-- The value at a key. -/
def get? (m : TextMap β) (key : String) : Option β := m.entries.lookup key

/-- The map of a list of entries; the last one of a key counts. -/
def ofList (l : List (String × β)) : TextMap β := l.foldl (fun m e => m.insert e.1 e.2) empty

/-- Keeps the entries for which `f` gives a value. -/
def filterMap (f : β → Option γ) (m : TextMap β) : TextMap γ where
  entries := m.entries.filterMap fun e => (f e.2).map (e.1, ·)
  sorted := by
    refine List.pairwise_filterMap.mpr (m.sorted.imp fun {a b} hab => ?_)
    intro c hc d hd
    simp only [Option.map_eq_some_iff] at hc hd
    obtain ⟨_, _, rfl⟩ := hc
    obtain ⟨_, _, rfl⟩ := hd
    exact hab

/-- The entries of a map that keeps what `f` gives. -/
theorem entries_filterMap (f : β → Option γ) (m : TextMap β) :
    (m.filterMap f).entries = m.entries.filterMap fun e => (f e.2).map (e.1, ·) := rfl

end TextMap

end Chargeback
