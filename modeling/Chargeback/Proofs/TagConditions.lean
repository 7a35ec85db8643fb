import Chargeback.Proofs.Fields
import Chargeback.Rule.Condition

/-!
# Two ways to ask for a tag

A condition can name a tag in its field, as `tag.` and the key, and compare its value; or it can look at
the field `tags` and name both key and value in one text, with a `=` between them. The first way reads the
key behind the first point of the field and takes two values for equal if they read as the same number. The
second one cuts its text at the first `=`, removes the blanks around both sides and compares texts. On keys
that can stand in front of a `=`, this is all that sets the two ways apart.
-/

namespace Chargeback

/-! ## Cuts -/

namespace Text

theorem cutAt?_append {mark : Char} {before : List Char} (h : mark ∉ before) (after : List Char) :
    cutAt? mark (before ++ mark :: after) = some (before, after) := by
  induction before with
  | nil => rw [List.nil_append, cutAt?, if_pos rfl]
  | cons c rest ih =>
    rw [List.mem_cons, not_or] at h
    rw [List.cons_append, cutAt?, if_neg (Ne.symm h.1), ih h.2]
    rfl

theorem cutAt?_eq_none {mark : Char} {s : List Char} (h : mark ∉ s) : cutAt? mark s = none := by
  induction s with
  | nil => rfl
  | cons c rest ih =>
    rw [List.mem_cons, not_or] at h
    rw [cutAt?, if_neg (Ne.symm h.1), ih h.2]
    rfl

/-- A text that keeps its blanks removed neither begins nor ends with one. -/
theorem isTrimmed_of_trim_eq {s : String} (h : trim s = s) : IsTrimmed s.toList := by
  rw [← h, trim, String.toList_ofList]
  exact isTrimmed_trimChars s.toList

end Text

variable {α : Type} {k : String}

/-! ## The dotted form -/

/-- A key without blanks around it is read back from the dotted form, whatever points it holds. -/
theorem Field.parse_dotted (hne : k ≠ "") (htrim : Text.trim k = k) :
    Field.parse ("tag." ++ k) = .tag k := by
  have hchars : k.toList ≠ [] := by rwa [ne_eq, String.toList_eq_nil_iff]
  exact parse_text_tag hchars (Text.isTrimmed_of_trim_eq htrim).last

theorem FieldValue.looselyEquals_text_iff [Scalar α] (s w : String) :
    (FieldValue.text s : FieldValue α).looselyEquals w = true ↔
      s = w ∨ ∃ x y : α, Scalar.parse? s = some x ∧ Scalar.parse? w = some y ∧ (x == y) = true := by
  rw [looselyEquals, Bool.or_eq_true, beq_iff_eq]
  refine or_congr_right ?_
  cases Scalar.parse? (α := α) s <;> cases Scalar.parse? (α := α) w <;> simp

/-- The dotted form holds of a resource that has the tag, with a value that is loosely equal. -/
theorem Condition.holds_tag_iff [Scalar α] (r : Resource α) (w : String) :
    Condition.holds ⟨.tag k, .equals, w⟩ r = true ↔
      ∃ s, r.tag? k = some s ∧ (FieldValue.text s : FieldValue α).looselyEquals w = true := by
  show (Field.resolve r (.tag k)).looselyEquals w = true ↔ _
  rw [Field.resolve]
  cases r.tag? k with
  | none => simp [FieldValue.looselyEquals]
  | some s => simp

/-! ## The shortcut -/

theorem Condition.hasTagPair_iff (hmark : '=' ∉ k.toList) (htrim : Text.trim k = k) (r : Resource α)
    (v : String) :
    hasTagPair r (k ++ "=" ++ v) = true ↔ r.tag? k = some (Text.trim v) := by
  have hchars : (k ++ "=" ++ v).toList = k.toList ++ '=' :: v.toList := by simp
  have hkey : String.ofList (Text.trimChars k.toList) = k := htrim
  rw [hasTagPair, hchars, Text.cutAt?_append hmark]
  show (r.tag? (String.ofList (Text.trimChars k.toList)) == some (Text.trim v)) = true ↔ _
  rw [hkey, beq_iff_eq]

theorem Condition.hasTagPair_key (hmark : '=' ∉ k.toList) (htrim : Text.trim k = k) (r : Resource α) :
    hasTagPair r k = (r.tag? k).isSome := by
  rw [hasTagPair, Text.cutAt?_eq_none hmark, htrim]

/-! ## The difference -/

/-- The dotted form of a condition on a tag holds exactly if the shortcut does, or if the resource has the
tag and its value and the one that is asked for read as the same finite number; without a value the
shortcut asks whether the tag is there. So the shortcut never finds a resource that the dotted form
passes over. -/
theorem Condition.shortcut_is_dotted_without_coercion [Scalar α] (hne : k ≠ "")
    (hmark : '=' ∉ k.toList) (htrim : Text.trim k = k) (r : Resource α) (v : String) :
    let dotted : Condition := ⟨Field.parse ("tag." ++ k), .equals, Text.trim v⟩
    let shortcut : Condition := ⟨Field.parse "tags", .equals, k ++ "=" ++ v⟩
    let presence : Condition := ⟨Field.parse "tags", .equals, k⟩
    (dotted.holds r = true ↔ shortcut.holds r = true ∨
      ∃ (s : String) (x y : α), r.tag? k = some s ∧ Scalar.parse? s = some x ∧
        Scalar.parse? (Text.trim v) = some y ∧ (x == y) = true) ∧
    (presence.holds r = true ↔ ∃ s, r.tag? k = some s) ∧
    (shortcut.holds r = true → dotted.holds r = true) := by
  intro dotted shortcut presence
  have hdotted : dotted.holds r = true ↔
      ∃ s, r.tag? k = some s ∧ (FieldValue.text s : FieldValue α).looselyEquals (Text.trim v) = true := by
    show Condition.holds ⟨Field.parse ("tag." ++ k), .equals, Text.trim v⟩ r = true ↔ _
    rw [Field.parse_dotted hne htrim]
    exact holds_tag_iff r (Text.trim v)
  have hshortcut : shortcut.holds r = true ↔ r.tag? k = some (Text.trim v) :=
    hasTagPair_iff hmark htrim r v
  have hdifference : dotted.holds r = true ↔ shortcut.holds r = true ∨
      ∃ (s : String) (x y : α), r.tag? k = some s ∧ Scalar.parse? s = some x ∧
        Scalar.parse? (Text.trim v) = some y ∧ (x == y) = true := by
    rw [hdotted, hshortcut]
    simp only [FieldValue.looselyEquals_text_iff]
    constructor
    · rintro ⟨s, hs, rfl | ⟨x, y, hx, hy, hxy⟩⟩
      · exact .inl hs
      · exact .inr ⟨s, x, y, hs, hx, hy, hxy⟩
    · rintro (hs | ⟨s, x, y, hs, hx, hy, hxy⟩)
      · exact ⟨_, hs, .inl rfl⟩
      · exact ⟨s, hs, .inr ⟨x, y, hx, hy, hxy⟩⟩
  have hpresence : presence.holds r = true ↔ ∃ s, r.tag? k = some s := by
    show hasTagPair r k = true ↔ _
    rw [hasTagPair_key hmark htrim, Option.isSome_iff_exists]
  exact ⟨hdifference, hpresence, fun h => hdifference.mpr (.inl h)⟩

namespace Sample

/-- A resource with a tag whose key holds a point and whose value is a number. -/
def replicated : Resource Float :=
  ⟨"1", "web", none, "", "", 0, 0, 0, TextMap.ofList [("app.replicas", "3")]⟩

end Sample

/-- The number is spelled in another way here, so that only the dotted form holds. -/
theorem Condition.shortcut_is_dotted_without_coercion_replicas :
    let k := "app.replicas"
    let dotted : Condition := ⟨Field.parse ("tag." ++ k), .equals, Text.trim " 3.0 "⟩
    let shortcut : Condition := ⟨Field.parse "tags", .equals, k ++ "=" ++ " 3.0 "⟩
    let presence : Condition := ⟨Field.parse "tags", .equals, k⟩
    k ≠ "" ∧ '=' ∉ k.toList ∧ Text.trim k = k ∧ dotted.holds Sample.replicated = true ∧
      shortcut.holds Sample.replicated = false ∧ presence.holds Sample.replicated = true := by
  intro k dotted shortcut presence
  have hne : k ≠ "" := by decide
  have hmark : '=' ∉ k.toList := by decide
  have htrim : Text.trim k = k := by decide
  have htag : Sample.replicated.tag? k = some "3" := by decide
  obtain ⟨hdotted, hpresence, -⟩ :=
    shortcut_is_dotted_without_coercion hne hmark htrim Sample.replicated " 3.0 "
  refine ⟨hne, hmark, htrim, hdotted.mpr (.inr ?_), by decide, hpresence.mpr ⟨"3", htag⟩⟩
  exact ⟨"3", 3, 3, htag, by decide, by decide, by decide⟩

end Chargeback
