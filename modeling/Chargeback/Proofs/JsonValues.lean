import Chargeback.Proofs.Records

/-!
# What a text is read as

Whatever text is read, the whole numbers in its value fit in 64 bits: those that do not are read as
doubles. The value need not be `Printable`, since parts of the text may stand for no value. The readers
of nested values call each other, so the induction goes over the number that they all count down, with
one statement for each of them.
-/

namespace Chargeback.Json

/-- Every whole number in a value fits in 64 bits. Parts may stand for no value. -/
inductive InRange : Json → Prop where
  | null : InRange .null
  | bool (b : Bool) : InRange (.bool b)
  | int {n : Int} (least : -2 ^ 63 ≤ n) (most : n < 2 ^ 64) : InRange (.int n)
  | float (x : Float) : InRange (.float x)
  | str (s : String) : InRange (.str s)
  | unusable : InRange .unusable
  | arr {items : List Json} (parts : ∀ j ∈ items, InRange j) : InRange (.arr items)
  | obj {fields : List (String × Json)} (parts : ∀ f ∈ fields, InRange f.2) : InRange (.obj fields)

theorem Printable.inRange {j : Json} (hj : Printable j) : InRange j := by
  induction hj with
  | null => exact .null
  | bool b => exact .bool b
  | int least most => exact .int least most
  | float x => exact .float x
  | str s => exact .str s
  | arr _ ih => exact .arr ih
  | obj _ ih => exact .obj ih

/-- The value of a field is a part of the record. -/
theorem InRange.of_slot? {j value : Json} (hj : InRange j) {position : ℕ} {names : List String}
    (h : slot? position names j = some (some value)) : InRange value := by
  rcases mem_of_slot? h with ⟨items, rfl, hvalue⟩ | ⟨fields, f, rfl, hf, rfl⟩
  · cases hj with
    | arr parts => exact parts value hvalue
  · cases hj with
    | obj parts => exact parts f hf

/-! ## Numbers, texts and words -/

theorem inRange_numberOf (negative : Bool) (whole places : List Char) (power : Option Int) :
    InRange (numberOf negative whole places power) := by
  unfold numberOf
  simp only
  split
  · rename_i h
    obtain ⟨-, -, -, hmost⟩ := h
    have hbelow : Number.natOfDigits 0 whole < 2 ^ 64 := hmost
    exact .int (by omega) (by exact_mod_cast hbelow)
  · split
    · rename_i h
      obtain ⟨-, -, -, -, hmost⟩ := h
      have hbelow : Number.natOfDigits 0 whole ≤ 2 ^ 63 := hmost
      exact .int (by omega) (by omega)
    · split
      · exact .float _
      · exact .unusable

theorem inRange_of_readNumber? {negative : Bool} {s rest : List Char} {j : Json}
    (h : readNumber? negative s = some (j, rest)) : InRange j := by
  simp only [readNumber?, Option.bind_eq_bind, Option.pure_def] at h
  split at h
  · cases h
  · simp only [Option.bind_eq_some_iff, Option.some.injEq, Prod.mk.injEq, Prod.exists] at h
    obtain ⟨places, behind, -, power, last, -, rfl, -⟩ := h
    exact inRange_numberOf ..

theorem inRange_ofText (text : Option String) : InRange (ofText text) := by
  cases text with
  | none => exact .unusable
  | some text => exact .str text

theorem inRange_of_readWord? {word : String} {value j : Json} {s rest : List Char}
    (hvalue : InRange value) (h : readWord? word value s = some (j, rest)) : InRange j := by
  obtain ⟨behind, -, heq⟩ := Option.map_eq_some_iff.mp h
  obtain ⟨rfl, -⟩ := Prod.mk.inj heq
  exact hvalue

theorem inRange_ofFields {fields : List (Option String × Json)} (h : ∀ f ∈ fields, InRange f.2) :
    InRange (ofFields fields) := by
  unfold ofFields
  split
  · rename_i named hnamed
    refine .obj fun f hf => ?_
    obtain ⟨field, hfield, hread⟩ := exists_of_mem_mapM hnamed hf
    obtain ⟨name, -, rfl⟩ := Option.map_eq_some_iff.mp hread
    exact h field hfield
  · exact .unusable

/-! ## Nested values -/

/-- What the readers of nested values give, as long as they count down from a number. -/
structure GiveInRange (fuel : ℕ) : Prop where
  value {depth : ℕ} {s rest : List Char} {j : Json} :
    readValue? fuel depth s = some (j, rest) → InRange j
  items {depth : ℕ} {s rest : List Char} {l : List Json} :
    readItems? fuel depth s = some (l, rest) → ∀ j ∈ l, InRange j
  moreItems {depth : ℕ} {s rest : List Char} {l : List Json} :
    readMoreItems? fuel depth s = some (l, rest) → ∀ j ∈ l, InRange j
  fields {depth : ℕ} {s rest : List Char} {l : List (Option String × Json)} :
    readFields? fuel depth s = some (l, rest) → ∀ f ∈ l, InRange f.2
  moreFields {depth : ℕ} {s rest : List Char} {l : List (Option String × Json)} :
    readMoreFields? fuel depth s = some (l, rest) → ∀ f ∈ l, InRange f.2
  field {depth : ℕ} {s rest : List Char} {f : Option String × Json} :
    readField? fuel depth s = some (f, rest) → InRange f.2

namespace GiveInRange

variable {fuel depth : ℕ} {s rest : List Char}

/-- At zero nothing is read. -/
theorem zero : GiveInRange 0 where
  value h := by rw [readValue?] at h; cases h
  items h := by rw [readItems?] at h; cases h
  moreItems h := by rw [readMoreItems?] at h; cases h
  fields h := by rw [readFields?] at h; cases h
  moreFields h := by rw [readMoreFields?] at h; cases h
  field h := by rw [readField?] at h; cases h

theorem value_succ (h : GiveInRange fuel) {j : Json}
    (hread : readValue? (fuel + 1) depth s = some (j, rest)) : InRange j := by
  rw [readValue?] at hread
  split at hread
  · cases hread
  · simp only [Option.bind_eq_bind, Option.pure_def] at hread
    -- The cases are those of the first character: quote, bracket, brace, sign, digit and three words.
    -- A list or a record that stands too deep has a case of its own.
    split_ifs at hread
    · simp only [Option.bind_eq_some_iff, Option.some.injEq, Prod.mk.injEq, Prod.exists] at hread
      obtain ⟨text, behind, -, rfl, -⟩ := hread
      exact inRange_ofText text
    · simp only [Option.bind_eq_some_iff, Option.some.injEq, Prod.mk.injEq, Prod.exists] at hread
      obtain ⟨items, behind, -, rfl, -⟩ := hread
      exact .unusable
    · simp only [Option.bind_eq_some_iff, Option.some.injEq, Prod.mk.injEq, Prod.exists] at hread
      obtain ⟨items, behind, hitems, rfl, -⟩ := hread
      exact .arr (h.items hitems)
    · simp only [Option.bind_eq_some_iff, Option.some.injEq, Prod.mk.injEq, Prod.exists] at hread
      obtain ⟨fields, behind, -, rfl, -⟩ := hread
      exact .unusable
    · simp only [Option.bind_eq_some_iff, Option.some.injEq, Prod.mk.injEq, Prod.exists] at hread
      obtain ⟨fields, behind, hfields, rfl, -⟩ := hread
      exact inRange_ofFields (h.fields hfields)
    · exact inRange_of_readNumber? hread
    · exact inRange_of_readNumber? hread
    · exact inRange_of_readWord? (.bool true) hread
    · exact inRange_of_readWord? (.bool false) hread
    · exact inRange_of_readWord? .null hread

theorem items_succ (h : GiveInRange fuel) {l : List Json}
    (hread : readItems? (fuel + 1) depth s = some (l, rest)) : ∀ j ∈ l, InRange j := by
  rw [readItems?] at hread
  split at hread
  · cases hread
    exact List.forall_mem_nil _
  · simp only [Option.bind_eq_bind, Option.pure_def, Option.bind_eq_some_iff, Option.some.injEq,
      Prod.mk.injEq, Prod.exists] at hread
    obtain ⟨item, behind, hitem, others, last, hothers, rfl, -⟩ := hread
    exact List.forall_mem_cons.mpr ⟨h.value hitem, h.moreItems hothers⟩

theorem moreItems_succ (h : GiveInRange fuel) {l : List Json}
    (hread : readMoreItems? (fuel + 1) depth s = some (l, rest)) : ∀ j ∈ l, InRange j := by
  rw [readMoreItems?] at hread
  split at hread
  · cases hread
    exact List.forall_mem_nil _
  · simp only [Option.bind_eq_bind, Option.pure_def, Option.bind_eq_some_iff, Option.some.injEq,
      Prod.mk.injEq, Prod.exists] at hread
    obtain ⟨item, behind, hitem, others, last, hothers, rfl, -⟩ := hread
    exact List.forall_mem_cons.mpr ⟨h.value hitem, h.moreItems hothers⟩
  · cases hread

theorem fields_succ (h : GiveInRange fuel) {l : List (Option String × Json)}
    (hread : readFields? (fuel + 1) depth s = some (l, rest)) : ∀ f ∈ l, InRange f.2 := by
  rw [readFields?] at hread
  split at hread
  · cases hread
    exact List.forall_mem_nil _
  · simp only [Option.bind_eq_bind, Option.pure_def, Option.bind_eq_some_iff, Option.some.injEq,
      Prod.mk.injEq] at hread
    obtain ⟨⟨field, behind⟩, hfield, ⟨others, last⟩, hothers, rfl, -⟩ := hread
    exact List.forall_mem_cons.mpr ⟨h.field hfield, h.moreFields hothers⟩

theorem moreFields_succ (h : GiveInRange fuel) {l : List (Option String × Json)}
    (hread : readMoreFields? (fuel + 1) depth s = some (l, rest)) : ∀ f ∈ l, InRange f.2 := by
  rw [readMoreFields?] at hread
  split at hread
  · cases hread
    exact List.forall_mem_nil _
  · simp only [Option.bind_eq_bind, Option.pure_def, Option.bind_eq_some_iff, Option.some.injEq,
      Prod.mk.injEq] at hread
    obtain ⟨⟨field, behind⟩, hfield, ⟨others, last⟩, hothers, rfl, -⟩ := hread
    exact List.forall_mem_cons.mpr ⟨h.field hfield, h.moreFields hothers⟩
  · cases hread

theorem field_succ (h : GiveInRange fuel) {f : Option String × Json}
    (hread : readField? (fuel + 1) depth s = some (f, rest)) : InRange f.2 := by
  rw [readField?] at hread
  split at hread
  · simp only [Option.bind_eq_bind, Option.pure_def, Option.bind_eq_some_iff] at hread
    obtain ⟨⟨name, behind⟩, -, hread⟩ := hread
    split at hread
    · simp only [Option.bind_eq_some_iff, Option.some.injEq, Prod.mk.injEq, Prod.exists] at hread
      obtain ⟨value, last, hvalue, rfl, -⟩ := hread
      exact h.value hvalue
    · cases hread
  · cases hread

end GiveInRange

theorem giveInRange (fuel : ℕ) : GiveInRange fuel := by
  induction fuel with
  | zero => exact .zero
  | succ fuel ih =>
    exact ⟨ih.value_succ, ih.items_succ, ih.moreItems_succ, ih.fields_succ, ih.moreFields_succ,
      ih.field_succ⟩

/-- Every value that a text is read as has its whole numbers in range. -/
theorem inRange_of_read? {text : String} {j : Json} (h : read? text = some j) : InRange j := by
  rw [read?, readWithin?] at h
  split at h
  · rename_i value rest hvalue
    split at h
    · cases h
      exact (giveInRange _).value hvalue
    · cases h
  · cases h

end Chargeback.Json
