import Mathlib.Logic.Relation
import Chargeback.Resource

/-!
# Spellings of attributes

An attribute is known by several names, and each of them may be spelled with `_` and `-` at any place and
in letters of either case. Before a name is looked up, the marks are taken out and each character is put
into lower case by itself, so that what is left of a name is put together from what is left of its
characters: a change at one place changes nothing else.
-/

namespace Chargeback.Attribute

/-- One change of the spelling of a name. -/
inductive Respells : List Char → List Char → Prop where
  /-- A mark is put in, at any place. -/
  | mark {front back : List Char} {c : Char} (h : c = '_' ∨ c = '-') :
      Respells (front ++ back) (front ++ c :: back)
  /-- A character gives way to one that differs from it at most in the case of ASCII letters. -/
  | letter {front back : List Char} {c c' : Char} (h : c.toLower = c'.toLower) :
      Respells (front ++ c :: back) (front ++ c' :: back)

theorem fold_append (s t : List Char) : fold (s ++ t) = fold s ++ fold t := by
  rw [fold, List.filter_append, Text.lowerEach, List.flatMap_append]
  rfl

/-- What is left of a text around one of its characters. -/
theorem fold_around (front back : List Char) (c : Char) :
    fold (front ++ c :: back) = fold front ++ (fold [c] ++ fold back) := by
  rw [← List.singleton_append, fold_append, fold_append]

theorem fold_toLower (c : Char) : fold [c.toLower] = fold [c] := by
  by_cases hcapital : 65 ≤ c.toNat ∧ c.toNat ≤ 90
  · have hletters : ∀ n < 91, 65 ≤ n → fold [(Char.ofNat n).toLower] = fold [Char.ofNat n] := by
      decide
    have h := hletters c.toNat (Nat.lt_succ_of_le hcapital.2) hcapital.1
    rwa [Char.ofNat_toNat] at h
  · have hsame : c.toLower = c := dif_neg hcapital
    rw [hsame]

theorem Respells.fold_eq {s t : List Char} (h : Respells s t) : fold s = fold t := by
  cases h with
  | @mark front back c hmark =>
    have hnothing : fold [c] = [] := by rcases hmark with rfl | rfl <;> rfl
    rw [fold_append, fold_around, hnothing, List.nil_append]
  | @letter front back c c' hletter =>
    have hsame : fold [c] = fold [c'] := by rw [← fold_toLower c, hletter, fold_toLower]
    rw [fold_around, fold_around, hsame]

/-- Whatever marks are put in or taken out and whatever letters change their case, a name spells the same
attribute, or none. -/
theorem parse?_eq_of_respelled {s t : List Char} (h : Relation.EqvGen Respells s t) :
    parse? (String.ofList s) = parse? (String.ofList t) := by
  have hfold : fold s = fold t := by
    induction h with
    | rel s t hstep => exact hstep.fold_eq
    | refl s => rfl
    | symm s t _ ih => exact ih.symm
    | trans s t u _ _ ih ih' => exact ih.trans ih'
  rw [parse?, parse?, String.toList_ofList, String.toList_ofList, hfold]

theorem parse?_column (a : Attribute) : parse? a.column = some a := by
  cases a <;> decide

end Chargeback.Attribute
