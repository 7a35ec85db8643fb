import Mathlib.Logic.Function.Iterate
import Chargeback.Proofs.Spellings
import Chargeback.Proofs.StoreText

/-!
# Fields survive being saved

A condition is kept with the text of its field, which is one of the many texts that are read as this field.
Since the text is read as the same field again, a rule tree that was read from any document is read from
its own document as the same tree, and a store with its rule trees comes back as it was each time that it
is saved and loaded. A text may be too deep to be read; but what is read has lost nothing.
-/

namespace Chargeback

open Json

namespace Store

/-- The rule trees of the profiles of a store. -/
def ruleTrees (s : Store Float) : List RuleTree := s.profiles.map Profile.rules

/-- A store after it was saved and loaded once more, if its text can be read. -/
def reloaded? (s : Option (Store Float)) : Option (Store Float) := s.bind fun s => Store.read? s.text

/-- However often a store is saved and loaded, it stays as it was loaded first. -/
theorem eq_of_reloaded {text : String} {s t : Store Float} (hs : Store.read? text = some s) {n : ℕ}
    (ht : reloaded?^[n] (some s) = some t) : t = s := by
  induction n with
  | zero => exact (Option.some.inj ht).symm
  | succ n ih =>
    rw [Function.iterate_succ_apply] at ht
    cases hnext : reloaded? (some s) with
    | none =>
      have hnone : reloaded?^[n] none = none := Function.iterate_fixed rfl n
      rw [hnext, hnone] at ht
      cases ht
    | some next =>
      have hsame : next = s := eq_of_read?_text (isRecoverable_of_read? hs) hnext
      rw [hnext, hsame] at ht
      exact ih ht

end Store

/-- The text of a field that was read is read as this field, so that a store keeps all its rule trees,
whichever fields they name, however often it is saved and loaded. The name of the column of an attribute is
one of the spellings of this attribute; and no mark and no case of a letter in a name changes which
attribute it spells, if any. -/
theorem Field.references_survive_saving :
    (∀ raw : String, parse (parse raw).text = parse raw) ∧
    (∀ (text : String) (s t : Store Float) (n : ℕ), Store.read? text = some s →
      Store.reloaded?^[n] (some s) = some t → t.ruleTrees = s.ruleTrees) ∧
    (∀ a : Attribute, Attribute.parse? a.column = some a) ∧
    (∀ name name' : List Char, Relation.EqvGen Attribute.Respells name name' →
      Attribute.parse? (String.ofList name) = Attribute.parse? (String.ofList name')) :=
  ⟨parse_text_parse, fun _ _ _ _ hs ht => congrArg Store.ruleTrees (Store.eq_of_reloaded hs ht),
    Attribute.parse?_column,
    fun _ _ => Attribute.parse?_eq_of_respelled⟩

namespace Sample

/-- The text of a store with one profile, whose condition spells the key of a tag with a blank and a point
and its announcement in capitals. -/
def spelledText : String :=
  "[\x7b\"name\": \"Web\", \"rules\": \x7b\"conditions\": [\x7b\"field\": \" TAGS. a.b \"\x7d]\x7d\x7d]"

end Sample

/-- The rule tree has one node, so the text has room for it and the store can be loaded again. -/
theorem Field.references_survive_saving_spelled :
    ∃ s t : Store Float, Store.read? Sample.spelledText = some s ∧
      Store.reloaded?^[1] (some s) = some t ∧
      s.ruleTrees.map RuleTree.conditions = [[⟨.tag " a.b", .unknown, ""⟩]] ∧
      t.ruleTrees = s.ruleTrees := by
  have hread : (Store.read? Sample.spelledText).map (fun s =>
      (s.ruleTrees.map RuleTree.conditions, s.profiles.map fun p => p.rules.height)) =
      some ([[⟨.tag " a.b", .unknown, ""⟩]], [1]) := by decide +kernel
  obtain ⟨s, hs, hparts⟩ := Option.map_eq_some_iff.mp hread
  obtain ⟨hconditions, hheights⟩ := Prod.mk.inj hparts
  have hroom : ∀ p ∈ s.profiles, p.rules.height ≤ RuleTree.heightLimit := by
    intro p hp
    have hheight : p.rules.height ∈ s.profiles.map fun p => p.rules.height :=
      List.mem_map.mpr ⟨p, hp, rfl⟩
    rw [hheights, List.mem_singleton] at hheight
    rw [hheight]
    decide
  have ht : Store.read? s.text = some s := (Store.holds_text (Store.isRecoverable_of_read? hs)).whole hroom
  exact ⟨s, s, hs, ht, hconditions, references_survive_saving.2.1 _ s s 1 hs ht⟩

end Chargeback
