import Chargeback.Proofs.JsonScalars

/-!
# Texts of values are read back

The indented text of a value is read as that value again, up to two things: a double that is not finite
is read as nothing, and where more arrays and objects stand inside one another than the reader allows
for, the innermost ones stand for no value. Both are in `Json.reread`. Every reader takes as much of a
text as was written, so the induction goes over the value, for any text behind it, and the number that
the readers count down stays above three times the length of what is left to read.
-/

namespace Chargeback.Json

open Number

/-! ## What is read -/

mutual

/-- The value that the text of a value is read as, where at most `depth` arrays and objects inside one
another stand for values. -/
def reread (depth : Nat) : Json → Json
  | .float x => ofFloat x
  | .arr items => if depth = 0 then .unusable else .arr (rereadItems (depth - 1) items)
  | .obj fields => if depth = 0 then .unusable else .obj (rereadFields (depth - 1) fields)
  | j => j

/-- Every item as it is read. -/
def rereadItems (depth : Nat) : List Json → List Json
  | [] => []
  | j :: rest => reread depth j :: rereadItems depth rest

/-- Every field as it is read. -/
def rereadFields (depth : Nat) : List (String × Json) → List (String × Json)
  | [] => []
  | (name, j) :: rest => (name, reread depth j) :: rereadFields depth rest

end

/-- A value with a text: every part stands for a value, and whole numbers fit in 64 bits. -/
inductive Printable : Json → Prop where
  | null : Printable .null
  | bool (b : Bool) : Printable (.bool b)
  | int {n : Int} (least : -2 ^ 63 ≤ n) (most : n < 2 ^ 64) : Printable (.int n)
  | float (x : Float) : Printable (.float x)
  | str (s : String) : Printable (.str s)
  | arr {items : List Json} (parts : ∀ j ∈ items, Printable j) : Printable (.arr items)
  | obj {fields : List (String × Json)} (parts : ∀ f ∈ fields, Printable f.2) :
      Printable (.obj fields)

theorem printable_arr_iff {items : List Json} :
    Printable (.arr items) ↔ ∀ j ∈ items, Printable j := by
  constructor
  · rintro ⟨⟩
    assumption
  · exact .arr

theorem printable_obj_iff {fields : List (String × Json)} :
    Printable (.obj fields) ↔ ∀ f ∈ fields, Printable f.2 := by
  constructor
  · rintro ⟨⟩
    assumption
  · exact .obj

/-! ## Arrays -/

/-- The text of a value is read as the value, whatever stands behind it. -/
def ReadsBack (j : Json) : Prop :=
  ∀ (level depth fuel : Nat) (rest : List Char), EndsNumber rest →
    3 * (prettyText level j).length + 1 ≤ fuel →
      readValue? fuel depth (prettyText level j ++ rest) = some (reread depth j, rest)

theorem endsNumber_comma (s : List Char) : EndsNumber (',' :: s) := by
  rintro c ⟨rfl⟩
  decide

theorem endsNumber_newLine (level : Nat) (s : List Char) : EndsNumber (newLine level ++ s) := by
  rintro c ⟨rfl⟩
  decide

/-- A value on a line of its own. -/
theorem ReadsBack.onLine {j : Json} (hj : ReadsBack j) (level depth fuel : Nat)
    {rest : List Char} (hrest : EndsNumber rest)
    (hfuel : 3 * (prettyText level j).length + 1 ≤ fuel) :
    readValue? fuel depth (newLine level ++ (prettyText level j ++ rest)) =
      some (reread depth j, rest) := by
  rw [readValue?_of_skipSpace_eq (skipSpace_newLine level _) fuel depth]
  exact hj level depth fuel rest hrest hfuel

/-- The items behind the first one. -/
def moreItemsText (level : Nat) (items : List Json) : List Char :=
  items.flatMap fun j => ',' :: (newLine level ++ prettyText level j)

theorem prettyItems_cons (level : Nat) (j : Json) (items : List Json) :
    prettyItems level (j :: items) =
      newLine level ++ (prettyText level j ++ moreItemsText level items) := by
  induction items generalizing j with
  | nil => simp [prettyItems, moreItemsText]
  | cons k items ih =>
    rw [prettyItems, ih k]
    · simp [moreItemsText]
    · simp

theorem endsNumber_moreItemsText (level outer : Nat) (items : List Json) (s : List Char) :
    EndsNumber (moreItemsText level items ++ (newLine outer ++ s)) := by
  cases items with
  | nil => exact endsNumber_newLine outer s
  | cons j items => exact endsNumber_comma _

theorem readMoreItems?_text {items : List Json} (hitems : ∀ j ∈ items, ReadsBack j)
    (level outer depth fuel : Nat) (hfuel : 3 * (moreItemsText level items).length + 2 ≤ fuel)
    (rest : List Char) :
    readMoreItems? fuel depth (moreItemsText level items ++ (newLine outer ++ ']' :: rest)) =
      some (rereadItems depth items, rest) := by
  induction items generalizing fuel with
  | nil =>
    obtain ⟨fuel, rfl⟩ : ∃ f, fuel = f + 1 := ⟨fuel - 1, by omega⟩
    rw [moreItemsText, List.flatMap_nil, List.nil_append, readMoreItems?, skipSpace_newLine,
      skipSpace_cons (by decide)]
    rfl
  | cons j items ih =>
    obtain ⟨fuel, rfl⟩ : ∃ f, fuel = f + 1 := ⟨fuel - 1, by omega⟩
    have hlength : (moreItemsText level (j :: items)).length =
        (newLine level).length + (prettyText level j).length +
          (moreItemsText level items).length + 1 := by
      simp [moreItemsText]
      omega
    have hsplit : moreItemsText level (j :: items) ++ (newLine outer ++ ']' :: rest) =
        ',' :: (newLine level ++ (prettyText level j ++
          (moreItemsText level items ++ (newLine outer ++ ']' :: rest)))) := by
      simp [moreItemsText]
    have hends := endsNumber_moreItemsText level outer items (']' :: rest)
    have hitem := (hitems j (by simp)).onLine level depth fuel hends (by omega)
    have hmore := ih (fun k hk => hitems k (by simp [hk])) fuel (by omega)
    rw [hsplit, readMoreItems?, skipSpace_cons (by decide)]
    simp only [hitem, hmore, Option.bind_eq_bind, Option.bind_some]
    rfl

/-- No value starts with the end of an array. -/
theorem readValue?_ne_bracket {fuel depth : Nat} {s rest : List Char} {result : Json × List Char}
    (h : readValue? fuel depth s = some result) : skipSpace s ≠ ']' :: rest := by
  intro hs
  cases fuel with
  | zero => rw [readValue?] at h; cases h
  | succ fuel =>
    rw [readValue?, hs] at h
    revert h
    simp

/-- An array whose first item is read, and then the others. -/
theorem readItems?_of_readValue? {fuel depth : Nat} {s s' rest : List Char} {item : Json}
    {items : List Json} (hitem : readValue? fuel depth s = some (item, s'))
    (hmore : readMoreItems? fuel depth s' = some (items, rest)) :
    readItems? (fuel + 1) depth s = some (item :: items, rest) := by
  rw [readItems?]
  split
  · rename_i hs
    exact absurd hs (readValue?_ne_bracket hitem)
  · rw [readValue?_of_skipSpace_eq (skipSpace_skipSpace s), hitem]
    simp only [hmore, Option.bind_eq_bind, Option.bind_some]
    rfl

/-- Below the limit the items stand for values; either way they are read to their end. -/
theorem readValue?_arr {fuel depth : Nat} {s rest : List Char} {items : List Json}
    (h : readItems? fuel (depth - 1) s = some (rereadItems (depth - 1) items, rest)) :
    readValue? (fuel + 1) depth ('[' :: s) = some (reread depth (.arr items), rest) := by
  rw [readValue?, skipSpace_cons (by decide)]
  simp only [h, Option.bind_eq_bind, Option.bind_some, if_true]
  simp [reread]

theorem ReadsBack.arr {items : List Json} (hitems : ∀ j ∈ items, ReadsBack j) :
    ReadsBack (.arr items) := by
  intro level depth fuel rest hrest hfuel
  obtain ⟨fuel, rfl⟩ : ∃ f, fuel = f + 2 := by
    refine ⟨fuel - 2, ?_⟩
    have : 1 ≤ (prettyText level (.arr items)).length := by cases items <;> simp [prettyText]
    omega
  cases items with
  | nil =>
    refine readValue?_arr (s := ']' :: rest) ?_
    rw [readItems?, skipSpace_cons (by decide)]
    rfl
  | cons j items =>
    have hsplit : prettyText level (.arr (j :: items)) ++ rest =
        '[' :: (newLine (level + 1) ++ (prettyText (level + 1) j ++
          (moreItemsText (level + 1) items ++ (newLine level ++ ']' :: rest)))) := by
      rw [prettyText, prettyItems_cons]
      · simp
      · simp
    have hlength : (prettyText level (.arr (j :: items))).length =
        (newLine (level + 1)).length + (prettyText (level + 1) j).length +
          (moreItemsText (level + 1) items).length + (newLine level).length + 2 := by
      have := congrArg List.length hsplit
      simp only [List.length_append, List.length_cons] at this
      omega
    have hends := endsNumber_moreItemsText (level + 1) level items (']' :: rest)
    have hrest : ∀ k ∈ items, ReadsBack k := fun k hk => hitems k (by simp [hk])
    have hitem := (hitems j (by simp)).onLine (level + 1) (depth - 1) fuel hends (by omega)
    have hmore := readMoreItems?_text hrest (level + 1) level (depth - 1) fuel (by omega) rest
    rw [hsplit]
    exact readValue?_arr (readItems?_of_readValue? hitem hmore)

/-! ## Objects -/

/-- The text of a field. -/
def fieldText (level : Nat) (f : String × Json) : List Char :=
  '"' :: (f.1.toList.flatMap escapeChar ++ '"' :: ':' :: ' ' :: prettyText level f.2)

/-- The fields behind the first one. -/
def moreFieldsText (level : Nat) (fields : List (String × Json)) : List Char :=
  fields.flatMap fun f => ',' :: (newLine level ++ fieldText level f)

theorem prettyFields_cons (level : Nat) (f : String × Json) (fields : List (String × Json)) :
    prettyFields level (f :: fields) =
      newLine level ++ (fieldText level f ++ moreFieldsText level fields) := by
  induction fields generalizing f with
  | nil => simp [prettyFields, moreFieldsText, fieldText, stringText]
  | cons g fields ih =>
    rw [prettyFields, ih g]
    · simp [moreFieldsText, fieldText, stringText]
    · simp

/-- What the readers give for fields: every name is a text. -/
def named (fields : List (String × Json)) : List (Option String × Json) :=
  fields.map fun f => (some f.1, f.2)

theorem ofFields_named (fields : List (String × Json)) : ofFields (named fields) = .obj fields := by
  have hnames : (named fields).mapM (fun field => field.1.map (·, field.2)) = some fields := by
    induction fields with
    | nil => rfl
    | cons f fields ih =>
      rw [named, List.map_cons, List.mapM_cons]
      simp only [Option.map_some, Option.bind_eq_bind, Option.bind_some]
      rw [named] at ih
      rw [ih]
      rfl
  rw [ofFields, hnames]

/-- White space in front of a field is passed over. -/
theorem readField?_of_skipSpace_eq {s t : List Char} (h : skipSpace s = skipSpace t)
    (fuel depth : Nat) : readField? fuel depth s = readField? fuel depth t := by
  cases fuel with
  | zero => rw [readField?, readField?]
  | succ fuel => rw [readField?, readField?, h]

/-- A field on a line of its own is read as its name and its value. -/
theorem ReadsBack.field {f : String × Json} (hf : ReadsBack f.2) (level depth fuel : Nat)
    {rest : List Char} (hrest : EndsNumber rest)
    (hfuel : 3 * (prettyText level f.2).length + 2 ≤ fuel) :
    readField? fuel depth (newLine level ++ (fieldText level f ++ rest)) =
      some ((some f.1, reread depth f.2), rest) := by
  obtain ⟨fuel, rfl⟩ : ∃ n, fuel = n + 1 := ⟨fuel - 1, by omega⟩
  have hvalue : readValue? fuel depth (' ' :: (prettyText level f.2 ++ rest)) =
      some (reread depth f.2, rest) := by
    have hspace : skipSpace (' ' :: (prettyText level f.2 ++ rest)) =
        skipSpace (prettyText level f.2 ++ rest) := rfl
    rw [readValue?_of_skipSpace_eq hspace]
    exact hf level depth fuel rest hrest (by omega)
  have hname := readString?_stringText f.1 (':' :: ' ' :: (prettyText level f.2 ++ rest))
  have hsplit : fieldText level f ++ rest = '"' :: (f.1.toList.flatMap escapeChar ++
      '"' :: ':' :: ' ' :: (prettyText level f.2 ++ rest)) := by
    simp [fieldText]
  rw [readField?_of_skipSpace_eq (skipSpace_newLine level _), hsplit, readField?,
    skipSpace_cons (by decide)]
  simp only [hname, Option.bind_eq_bind, Option.bind_some, skipSpace_cons (show isSpace ':' = false
    by decide), hvalue]
  rfl

theorem endsNumber_moreFieldsText (level outer : Nat) (fields : List (String × Json))
    (s : List Char) : EndsNumber (moreFieldsText level fields ++ (newLine outer ++ s)) := by
  cases fields with
  | nil => exact endsNumber_newLine outer s
  | cons f fields => exact endsNumber_comma _

theorem readMoreFields?_text {fields : List (String × Json)} (hfields : ∀ f ∈ fields, ReadsBack f.2)
    (level outer depth fuel : Nat)
    (hfuel : 3 * (moreFieldsText level fields).length + 2 ≤ fuel) (rest : List Char) :
    readMoreFields? fuel depth (moreFieldsText level fields ++ (newLine outer ++ '\x7d' :: rest)) =
      some (named (rereadFields depth fields), rest) := by
  induction fields generalizing fuel with
  | nil =>
    obtain ⟨fuel, rfl⟩ : ∃ n, fuel = n + 1 := ⟨fuel - 1, by omega⟩
    rw [moreFieldsText, List.flatMap_nil, List.nil_append, readMoreFields?, skipSpace_newLine,
      skipSpace_cons (by decide)]
    rfl
  | cons f fields ih =>
    obtain ⟨fuel, rfl⟩ : ∃ n, fuel = n + 1 := ⟨fuel - 1, by omega⟩
    have hlength : (prettyText level f.2).length + (moreFieldsText level fields).length + 4 ≤
        (moreFieldsText level (f :: fields)).length := by
      simp [moreFieldsText, fieldText, newLine]
      omega
    have hsplit : moreFieldsText level (f :: fields) ++ (newLine outer ++ '\x7d' :: rest) =
        ',' :: (newLine level ++ (fieldText level f ++
          (moreFieldsText level fields ++ (newLine outer ++ '\x7d' :: rest)))) := by
      simp [moreFieldsText]
    have hends := endsNumber_moreFieldsText level outer fields ('\x7d' :: rest)
    have hfield := (hfields f (by simp)).field level depth fuel hends (by omega)
    have hmore := ih (fun g hg => hfields g (by simp [hg])) fuel (by omega)
    rw [hsplit, readMoreFields?, skipSpace_cons (by decide)]
    simp only [hfield, hmore, Option.bind_eq_bind, Option.bind_some]
    rfl

/-- No field starts with the end of an object. -/
theorem readField?_ne_brace {fuel depth : Nat} {s rest : List Char}
    {result : (Option String × Json) × List Char} (h : readField? fuel depth s = some result) :
    skipSpace s ≠ '\x7d' :: rest := by
  intro hs
  cases fuel with
  | zero => rw [readField?] at h; cases h
  | succ fuel =>
    rw [readField?, hs] at h
    revert h
    simp

/-- An object whose first field is read, and then the others. -/
theorem readFields?_of_readField? {fuel depth : Nat} {s s' rest : List Char}
    {field : Option String × Json} {fields : List (Option String × Json)}
    (hfield : readField? fuel depth s = some (field, s'))
    (hmore : readMoreFields? fuel depth s' = some (fields, rest)) :
    readFields? (fuel + 1) depth s = some (field :: fields, rest) := by
  rw [readFields?]
  split
  · rename_i hs
    exact absurd hs (readField?_ne_brace hfield)
  · rw [readField?_of_skipSpace_eq (skipSpace_skipSpace s), hfield]
    simp only [hmore, Option.bind_eq_bind, Option.bind_some]
    rfl

/-- Below the limit the fields stand for values; either way they are read to their end. -/
theorem readValue?_obj {fuel depth : Nat} {s rest : List Char} {fields : List (String × Json)}
    (h : readFields? fuel (depth - 1) s = some (named (rereadFields (depth - 1) fields), rest)) :
    readValue? (fuel + 1) depth ('\x7b' :: s) = some (reread depth (.obj fields), rest) := by
  rw [readValue?, skipSpace_cons (by decide)]
  simp only [h, Option.bind_eq_bind, Option.bind_some, if_true, ofFields_named]
  simp [reread]

theorem ReadsBack.obj {fields : List (String × Json)} (hfields : ∀ f ∈ fields, ReadsBack f.2) :
    ReadsBack (.obj fields) := by
  intro level depth fuel rest hrest hfuel
  obtain ⟨fuel, rfl⟩ : ∃ n, fuel = n + 2 := by
    refine ⟨fuel - 2, ?_⟩
    have : 1 ≤ (prettyText level (.obj fields)).length := by cases fields <;> simp [prettyText]
    omega
  cases fields with
  | nil =>
    refine readValue?_obj (s := '\x7d' :: rest) ?_
    rw [readFields?, skipSpace_cons (by decide)]
    rfl
  | cons f fields =>
    have hsplit : prettyText level (.obj (f :: fields)) ++ rest =
        '\x7b' :: (newLine (level + 1) ++ (fieldText (level + 1) f ++
          (moreFieldsText (level + 1) fields ++ (newLine level ++ '\x7d' :: rest)))) := by
      rw [prettyText, prettyFields_cons]
      · simp
      · simp
    have hlength : (prettyText (level + 1) f.2).length +
        (moreFieldsText (level + 1) fields).length + 4 ≤
          (prettyText level (.obj (f :: fields))).length := by
      have := congrArg List.length hsplit
      simp only [List.length_append, List.length_cons, fieldText] at this
      omega
    have hends := endsNumber_moreFieldsText (level + 1) level fields ('\x7d' :: rest)
    have hothers : ∀ g ∈ fields, ReadsBack g.2 := fun g hg => hfields g (by simp [hg])
    have hfield := (hfields f (by simp)).field (level + 1) (depth - 1) fuel hends (by omega)
    have hmore := readMoreFields?_text hothers (level + 1) level (depth - 1) fuel (by omega) rest
    rw [hsplit]
    exact readValue?_obj (readFields?_of_readField? hfield hmore)

/-! ## Values -/

/-- A value with no others in it takes a single step of the reader. -/
theorem ReadsBack.of_step {j : Json}
    (h : ∀ level depth fuel rest, EndsNumber rest →
      readValue? (fuel + 1) depth (prettyText level j ++ rest) = some (reread depth j, rest)) :
    ReadsBack j := by
  intro level depth fuel rest hrest hfuel
  obtain ⟨fuel, rfl⟩ : ∃ n, fuel = n + 1 := ⟨fuel - 1, by omega⟩
  exact h level depth fuel rest hrest

/-- The text of every printable value is read as the value. -/
theorem Printable.readsBack {j : Json} (hj : Printable j) : ReadsBack j := by
  induction hj with
  | arr parts ih => exact .arr ih
  | obj parts ih => exact .obj ih
  | null =>
    refine .of_step fun level depth fuel rest _ => ?_
    simp [prettyText, scalarText, readValue?, skipSpace, isSpace, readWord?, strip?, reread]
  | bool b =>
    refine .of_step fun level depth fuel rest _ => ?_
    cases b <;>
      simp [prettyText, scalarText, readValue?, skipSpace, isSpace, readWord?, strip?, reread]
  | int least most =>
    exact .of_step fun _ depth fuel _ hrest => readValue?_intText least most fuel depth hrest
  | float x => exact .of_step fun _ depth fuel _ hrest => readValue?_floatText x fuel depth hrest
  | str s =>
    refine .of_step fun level depth fuel rest _ => ?_
    have htext : prettyText level (.str s) ++ rest =
        '"' :: (s.toList.flatMap escapeChar ++ '"' :: rest) := by
      simp [prettyText, scalarText, stringText]
    rw [htext, readValue?, skipSpace_cons (by decide)]
    simp only [readString?_stringText, Option.bind_eq_bind, Option.bind_some, if_true]
    rfl

/-- The text of a document, with a line end behind it, is read as the document with what stands too
deep cut off. -/
theorem Printable.read?_pretty {j : Json} (hj : Printable j) :
    read? (j.pretty ++ "\n") = some (reread depthLimit j) := by
  have hchars : (j.pretty ++ "\n").toList = prettyText 0 j ++ ['\n'] := by
    rw [String.toList_append, pretty, String.toList_ofList]
    rfl
  have hread := hj.readsBack 0 depthLimit (3 * (prettyText 0 j ++ ['\n']).length + 3) ['\n']
    (endsNumber_newLine 0 []) (by rw [List.length_append]; omega)
  rw [read?, readWithin?, hchars]
  simp only [hread]
  rfl

/-! ## Depths -/

mutual

/-- What is read is as deep as what was written, up to where it is cut off. -/
theorem depth_reread (limit : Nat) : ∀ j : Json, (reread limit j).depth = min limit j.depth
  | .float x => by
    rw [reread, ofFloat]
    split <;> simp [depth]
  | .arr items => by
    rw [reread, depth]
    split
    · rename_i h
      simp [depth, h]
    · rw [depth, depthItems_rereadItems]
      omega
  | .obj fields => by
    rw [reread, depth]
    split
    · rename_i h
      simp [depth, h]
    · rw [depth, depthFields_rereadFields]
      omega
  | .null | .bool _ | .int _ | .str _ | .unusable => by simp [reread, depth]

theorem depthItems_rereadItems (limit : Nat) :
    ∀ items : List Json, depthItems (rereadItems limit items) = min limit (depthItems items)
  | [] => by simp [rereadItems, depthItems]
  | j :: rest => by
    rw [rereadItems, depthItems, depthItems, depth_reread, depthItems_rereadItems]
    omega

theorem depthFields_rereadFields (limit : Nat) :
    ∀ fields : List (String × Json),
      depthFields (rereadFields limit fields) = min limit (depthFields fields)
  | [] => by simp [rereadFields, depthFields]
  | (name, j) :: rest => by
    rw [rereadFields, depthFields, depthFields, depth_reread, depthFields_rereadFields]
    omega

end

theorem rereadItems_eq_map (limit : Nat) (items : List Json) :
    rereadItems limit items = items.map (reread limit) := by
  induction items with
  | nil => rfl
  | cons j items ih => rw [rereadItems, ih, List.map_cons]

theorem rereadFields_eq_map (limit : Nat) (fields : List (String × Json)) :
    rereadFields limit fields = fields.map fun f => (f.1, reread limit f.2) := by
  induction fields with
  | nil => rfl
  | cons f fields ih => rw [rereadFields, ih, List.map_cons]

end Chargeback.Json
