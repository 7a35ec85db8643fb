import Chargeback.Proofs.LowerCase
import Chargeback.Report.Allocations
import Chargeback.Rule.Condition

/-!
# Texts that hold another text

A condition that asks for a text, and the search in the report on allocations, put both texts into lower
case and then look for one in the other. A text that occurs in another one as it is written should be found
at any rate. It is, unless it leaves the form of a capital sigma open: then some texts in which it occurs
show the sigma in the other form, and are passed over. Texts without a capital sigma are never affected.
-/

namespace Chargeback

variable {v : String}

/-! ## Conditions -/

theorem FieldValue.holdsText_text {α : Type} [Scalar α] (s v : String) :
    (FieldValue.text s : FieldValue α).holdsText v = true ↔
      Text.lower v.toList <:+: Text.lower s.toList :=
  Text.occursIn_iff

theorem Condition.holds_contains_of_text {α : Type} [Scalar α] {field : Field} {r : Resource α} {s : String}
    (h : field.resolve r = .text s) (v : String) :
    Condition.holds ⟨field, .contains, v⟩ r = (FieldValue.text s : FieldValue α).holdsText v ∧
      Condition.holds ⟨field, .notContains, v⟩ r =
        !(FieldValue.text s : FieldValue α).holdsText v := by
  cases field with
  | tagPair => cases h
  | _ => simp only [Condition.holds, h, FieldValue.compare, and_self]

/-- A condition finds a text without open sigmas wherever it occurs. -/
theorem Condition.holds_contains_of_infix {α : Type} [Scalar α] (hv : Text.hasOpenSigma v.toList = false)
    {field : Field} {r : Resource α} {s : String} (h : field.resolve r = .text s)
    (hs : v.toList <:+: s.toList) :
    Condition.holds ⟨field, .contains, v⟩ r = true ∧
      Condition.holds ⟨field, .notContains, v⟩ r = false := by
  have hholds : (FieldValue.text s : FieldValue α).holdsText v = true :=
    (FieldValue.holdsText_text s v).mpr (Text.lower_infix_of_not_hasOpenSigma hv hs)
  rw [(holds_contains_of_text h v).1, (holds_contains_of_text h v).2, hholds]
  exact ⟨rfl, rfl⟩

/-! ## The search -/

namespace Report.Allocations

/-- A resource that no profile prices. -/
def unpriced (r : Resource Float) : Allocation := (r, .uncosted r)

theorem mem_select_some_iff {uncostedOnly : Bool} {allocations : List Allocation} {a : Allocation} :
    a ∈ select (some v) uncostedOnly allocations ↔
      a ∈ select none uncostedOnly allocations ∧ isFound (Text.lower v.toList) a = true := by
  simp only [select, List.mem_filter]
  tauto

theorem isFound_of_infix (hv : Text.hasOpenSigma v.toList = false) {a : Allocation}
    (ha : v.toList <:+: a.1.name.toList ∨ v.toList <:+: a.1.owner.toList) :
    isFound (Text.lower v.toList) a = true := by
  have hfound {s : String} (hs : v.toList <:+: s.toList) : isFoundIn (Text.lower v.toList) s = true :=
    Text.occursIn_iff.mpr (Text.lower_infix_of_not_hasOpenSigma hv hs)
  rw [isFound, Bool.or_eq_true, Bool.or_eq_true]
  exact .inl (ha.imp hfound hfound)

/-- Where no profile prices anything, only the name and the owner of a resource are searched. -/
theorem isFound_unpriced (needle : List Char) (r : Resource Float) :
    isFound needle (unpriced r) = (isFoundIn needle r.name || isFoundIn needle r.owner) :=
  Bool.or_false _

end Report.Allocations

/-! ## Both -/

namespace Sample

/-- A resource of which nothing is known but its name and owner. -/
def called (name owner : String) : Resource Float := ⟨"1", name, none, owner, "", 0, 0, 0, ∅⟩

end Sample

open Report.Allocations in
/-- A text is found in every text field and tag in which it occurs as it is written, and an allocation is
kept by the search for a text that occurs in its name or owner, exactly if the text leaves the form of none
of its capital sigmas open. -/
theorem Condition.literal_text_found_iff (v : String) :
    (Text.hasOpenSigma v.toList = false ↔
      ∀ (r : Resource Float) (field : Field) (s : String),
        field.resolve r = .text s → v.toList <:+: s.toList →
          Condition.holds ⟨field, .contains, v⟩ r = true ∧
            Condition.holds ⟨field, .notContains, v⟩ r = false) ∧
    (Text.hasOpenSigma v.toList = false ↔
      ∀ (uncostedOnly : Bool) (allocations : List Allocation),
        ∀ a ∈ select none uncostedOnly allocations,
          v.toList <:+: a.1.name.toList ∨ v.toList <:+: a.1.owner.toList →
            a ∈ select (some v) uncostedOnly allocations) := by
  -- An open sigma has a text in which it takes the other form; a resource of this name is not found.
  have hmissed (hopen : Text.hasOpenSigma v.toList = true) :
      ∃ s : String, v.toList <:+: s.toList ∧ ¬Text.lower v.toList <:+: Text.lower s.toList := by
    obtain ⟨s, hs, hlower⟩ := Text.exists_not_infix_of_hasOpenSigma hopen
    exact ⟨String.ofList s, by rwa [String.toList_ofList], by rwa [String.toList_ofList]⟩
  refine ⟨⟨fun hv r field s => holds_contains_of_infix hv, fun h => ?_⟩,
    ⟨fun hv uncostedOnly allocations a ha hoccurs => ?_, fun h => ?_⟩⟩
  · refine Bool.eq_false_iff.mpr fun hopen => ?_
    obtain ⟨s, hs, hlower⟩ := hmissed hopen
    have hname : (Field.ofAttribute .name).resolve (Sample.called s "") = .text s := rfl
    have hholds := (h (Sample.called s "") _ s hname hs).1
    rw [(holds_contains_of_text hname v).1, FieldValue.holdsText_text] at hholds
    exact hlower hholds
  · exact mem_select_some_iff.mpr ⟨ha, isFound_of_infix hv hoccurs⟩
  · refine Bool.eq_false_iff.mpr fun hopen => ?_
    obtain ⟨s, hs, hlower⟩ := hmissed hopen
    have hall : unpriced (Sample.called s s) ∈ select none false [unpriced (Sample.called s s)] := by
      simp [select]
    have hkept := mem_select_some_iff.mp (h false _ _ hall (.inl hs))
    have hfound := hkept.2
    rw [isFound_unpriced, Bool.or_eq_true] at hfound
    exact hlower (Text.occursIn_iff.mp (hfound.elim id id))

open Report.Allocations in
/-- A name that begins with a text, which is neither contained in it nor found by a search. In the text the
sigma stands at the end of a word and takes its final form; in the name it does not. -/
theorem Condition.literal_text_not_found :
    let r := Sample.called "ΑΣΑ" ""
    (Field.ofAttribute .name).resolve r = .text "ΑΣΑ" ∧ "ΑΣ".toList <:+: "ΑΣΑ".toList ∧
      Condition.holds ⟨.ofAttribute .name, .contains, "ΑΣ"⟩ r = false ∧
      Condition.holds ⟨.ofAttribute .name, .notContains, "ΑΣ"⟩ r = true ∧
      select (some "ΑΣ") false ([r].zip (EngineOptions.standard.priceAll [] [r])) = [] := by
  intro r
  refine ⟨rfl, ?_, ?_, ?_, ?_⟩
  · decide
  · decide
  · decide
  · decide

open Report.Allocations in
/-- Behind its last sigma this text shows a letter, so that it is found inside a longer word. -/
theorem Condition.literal_text_found_iff_within :
    let r := Sample.called "ΟΔΥΣΣΕΥΣ" ""
    Text.hasOpenSigma "ΔΥΣΣΕ".toList = false ∧
      Condition.holds ⟨.ofAttribute .name, .contains, "ΔΥΣΣΕ"⟩ r = true ∧
      Condition.holds ⟨.ofAttribute .name, .notContains, "ΔΥΣΣΕ"⟩ r = false ∧
      unpriced r ∈ select (some "ΔΥΣΣΕ") false [unpriced r] := by
  intro r
  have hsettled : Text.hasOpenSigma "ΔΥΣΣΕ".toList = false := by decide
  have hoccurs : "ΔΥΣΣΕ".toList <:+: r.name.toList := by decide
  obtain ⟨hconditions, hsearch⟩ := literal_text_found_iff "ΔΥΣΣΕ"
  obtain ⟨hcontains, hnot⟩ := hconditions.mp hsettled r (.ofAttribute .name) _ rfl hoccurs
  have hall : unpriced r ∈ select none false [unpriced r] := by simp [select]
  exact ⟨hsettled, hcontains, hnot, hsearch.mp hsettled false _ _ hall (.inl hoccurs)⟩

end Chargeback
