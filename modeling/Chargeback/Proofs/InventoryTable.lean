import Mathlib.Data.List.DropRight
import Chargeback.Inventory.Basic
import Chargeback.Proofs.InstantText
import Chargeback.Proofs.Records

/-!
# Tables and documents of an inventory mean the same

An inventory is read from a table by other rules than from a document. Here the cells of a row are
made into the document that they stand for: texts and capacities are strings, an empty kind is left
out, and the tags are the object in their cell. Reading this document gives the resource of the row,
whatever stands in the cells, so a table is accepted exactly if the document of every row is a
resource, and it is read as the list of them.
-/

namespace Chargeback

open Json

/-! ## Blank texts -/

namespace Text

theorem isBlank_of_trim_eq_empty {s : String} (h : trim s = "") {c : Char} (hc : c ∈ s.toList) :
    isBlank c = true := by
  have hchars : trimChars s.toList = [] := by
    rw [← String.toList_ofList (l := trimChars s.toList)]
    exact congrArg String.toList h
  -- All that is left at the front is removed at the end.
  have hrest : ∀ d ∈ trimStart s.toList, isBlank d = true := List.rdropWhile_eq_nil_iff.mp hchars
  rw [← List.takeWhile_append_dropWhile (p := isBlank) (l := s.toList), List.mem_append] at hc
  rcases hc with hc | hc
  · exact List.mem_takeWhile_imp hc
  · exact hrest c hc

end Text

/-- No value begins with a blank that the reader does not pass over. -/
theorem readValue?_of_isBlank {s : List Char} (hs : ∀ c ∈ s, Text.isBlank c = true)
    (fuel depth : Nat) : readValue? fuel depth s = none := by
  cases fuel with
  | zero => rw [readValue?]
  | succ fuel =>
    rw [readValue?]
    cases hspace : skipSpace s with
    | nil => rfl
    | cons c rest =>
      have hmem : c ∈ skipSpace s := by
        rw [hspace]
        exact List.mem_cons_self
      have hblank : Text.isBlank c = true := hs c ((List.dropWhile_suffix isSpace).mem hmem)
      have hne {d : Char} (hd : Text.isBlank d = false) : c ≠ d := by
        rintro rfl
        rw [hblank] at hd
        cases hd
      have hdigit : ¬ c.isDigit = true := by
        intro hc
        have hnot := Number.isBlank_of_isDigit hc
        rw [hblank] at hnot
        cases hnot
      show (if c = '"' then _ else _) = none
      rw [if_neg (hne (by decide)), if_neg (hne (by decide)), if_neg (hne (by decide)),
        if_neg (hne (by decide)), if_neg hdigit, if_neg (hne (by decide)), if_neg (hne (by decide)),
        if_neg (hne (by decide))]

/-- A blank text is no value. -/
theorem readUsable?_of_trim_eq_empty {text : String} (h : Text.trim text = "") :
    readUsable? text = none := by
  have hvalue := readValue?_of_isBlank (fun c hc => Text.isBlank_of_trim_eq_empty h hc)
    (3 * text.toList.length + 3) depthLimit
  rw [readUsable?, read?, readWithin?]
  simp only [hvalue]
  rfl

/-! ## Fields that may be left out -/

/-- The fields of a record; those without a value are left out. -/
def givenFields (parts : List (String × Option Json)) : List (String × Json) :=
  parts.filterMap fun part => part.2.map (part.1, ·)

theorem filter_givenFields (names : List String) (parts : List (String × Option Json)) :
    (givenFields parts).filter (fun field => names.contains field.1) =
      givenFields (parts.filter fun part => names.contains part.1) := by
  unfold givenFields
  rw [List.filter_filterMap, List.filterMap_filter]
  refine List.filterMap_congr fun part _ => ?_
  obtain ⟨name, value⟩ := part
  cases value with
  | none =>
    show none = if names.contains name = true then none else none
    rw [ite_self]
  | some value => exact Option.filter_some

section Fields

variable {ι : Type} {parts : List (String × Option Json)} {names : List String} {name : String}
  {value : Option Json} (position : Nat)
  (h : (parts.filter fun part => names.contains part.1) = [(name, value)])

include h

/-- A field that is the only one of its names gives its value. -/
theorem slot?_givenFields : slot? position names (.obj (givenFields parts)) = some value := by
  rw [slot?, filter_givenFields, h]
  cases value with
  | none => rfl
  | some value => rfl

theorem required?_givenFields (read : Json → Option ι) :
    required? (.obj (givenFields parts)) position names read = value.bind read := by
  rw [required?, slot?_givenFields position h]
  cases value with
  | none => rfl
  | some value => rfl

theorem optional?_givenFields (default : ι) (read : Json → Option ι) :
    optional? (.obj (givenFields parts)) position names default read =
      value.elim (some default) read := by
  rw [optional?, slot?_givenFields position h]
  cases value with
  | none => rfl
  | some value => rfl

end Fields

namespace Inventory.Row

variable (row : Row)

/-! ## The document of a row -/

/-- The text in the cell of a column, if there is such a column. -/
def text? (column : String) : Option Json := (row.lookup column).map .str

/-- The tags of a row in its document: the object that their cell holds the text of, or nothing. -/
def tagsDocument : Json :=
  match readUsable? (row.cell "Tags") with
  | some (.obj fields) => .obj fields
  | _ => .null

/-- The cells of a row as the fields of its document. An empty kind is left out. -/
def parts : List (String × Option Json) :=
  [("ResourceId", row.text? "ResourceId"), ("ResourceName", row.text? "ResourceName"),
   ("ResourceType", ((row.lookup "ResourceType").filter (· ≠ "")).map .str),
   ("RegionName", row.text? "RegionName"), ("OwnerID", row.text? "OwnerID"),
   ("CPU", row.text? "CPU"), ("MemoryGB", row.text? "MemoryGB"),
   ("StorageGB", row.text? "StorageGB"), ("Tags", some row.tagsDocument)]

/-- The document of a row. -/
def document : Json := .obj (givenFields row.parts)

/-! ### What its fields are read as -/

section Column

variable {column other : String}
  (h : (row.parts.filter fun part => [column, other].contains part.1) = [(column, row.text? column)])
  (position : Nat)

include h

/-- A cell that must be there. -/
theorem required?_document :
    row.document.required? position [column, other] str? = row.lookup column := by
  refine (required?_givenFields position h str?).trans ?_
  unfold text?
  cases row.lookup column with
  | none => rfl
  | some s => rfl

/-- A text; without a column it is empty. -/
theorem optional?_document :
    row.document.optional? position [column, other] "" str? = some (row.cell column) := by
  refine (optional?_givenFields position h "" str?).trans ?_
  unfold text? cell
  cases row.lookup column with
  | none => rfl
  | some s => rfl

/-- A capacity; without a column it is zero, as it is with an empty cell. -/
theorem capacity_document :
    row.document.optional? position [column, other] 0.0 (lenient? lenientFloat) =
      some (row.number column) := by
  refine (optional?_givenFields position h 0.0 (lenient? lenientFloat)).trans ?_
  unfold text? number cell
  cases row.lookup column with
  | none => rfl
  | some s => rfl

end Column

theorem kind_document :
    row.document.optional? 2 ["ResourceType", "resource_type"] none (nullable? str?) =
      some row.kind? := by
  have hpart : (row.parts.filter fun part => ["ResourceType", "resource_type"].contains part.1) =
      [("ResourceType", ((row.lookup "ResourceType").filter (· ≠ "")).map .str)] := rfl
  refine (optional?_givenFields 2 hpart none (nullable? str?)).trans ?_
  unfold kind? cell
  cases row.lookup "ResourceType" with
  | none => rfl
  | some s =>
    by_cases hs : s = ""
    · subst hs
      rfl
    · have hkept : (some s).filter (· ≠ "") = some s := by simp [hs]
      rw [hkept, Option.getD_some, if_neg hs]
      rfl

/-- A blank cell is no object, so it gives no tags either way. -/
theorem tags_document :
    row.document.optional? 8 ["Tags", "tags"] ∅ (lenient? tags) = some (row.tags?.getD ∅) := by
  have hpart : (row.parts.filter fun part => ["Tags", "tags"].contains part.1) =
      [("Tags", some row.tagsDocument)] := rfl
  refine (optional?_givenFields 8 hpart ∅ (lenient? tags)).trans ?_
  rw [Option.elim_some]
  unfold tagsDocument tags?
  by_cases hblank : Text.trim (row.cell "Tags") = ""
  · rw [if_pos hblank, readUsable?_of_trim_eq_empty hblank]
    rfl
  · rw [if_neg hblank]
    cases hvalue : readUsable? (row.cell "Tags") with
    | none => rfl
    | some j =>
      have husable : j.isUsable = true := (Option.filter_eq_some_iff.mp hvalue).2
      cases j with
      | obj fields => exact if_pos husable
      | _ => rfl

/-- Reading the document of a row gives the resource of the row, or neither is possible. -/
theorem read?_document : Resource.read? row.document = row.resource? := by
  have hid : row.document.required? 0 ["ResourceId", "id"] str? = row.lookup "ResourceId" :=
    row.required?_document rfl 0
  have hname : row.document.required? 1 ["ResourceName", "name"] str? = row.lookup "ResourceName" :=
    row.required?_document rfl 1
  have howner : row.document.optional? 3 ["OwnerID", "owner"] "" str? = some (row.cell "OwnerID") :=
    row.optional?_document rfl 3
  have hregion : row.document.optional? 4 ["RegionName", "region"] "" str? =
      some (row.cell "RegionName") := row.optional?_document rfl 4
  have hcpu : row.document.optional? 5 ["CPU", "cpu_count"] 0.0 (lenient? lenientFloat) =
      some (row.number "CPU") := row.capacity_document rfl 5
  have hmemory : row.document.optional? 6 ["MemoryGB", "memory_gb"] 0.0 (lenient? lenientFloat) =
      some (row.number "MemoryGB") := row.capacity_document rfl 6
  have hstorage : row.document.optional? 7 ["StorageGB", "storage_gb"] 0.0 (lenient? lenientFloat) =
      some (row.number "StorageGB") := row.capacity_document rfl 7
  unfold Resource.read? resource?
  rw [hid, hname, row.kind_document, howner, hregion, hcpu, hmemory, hstorage, row.tags_document]
  rfl

end Inventory.Row

namespace Inventory

/-! ## Tables -/

/-- A row of a table is read as a resource: it has a cell for each column, no column that is read is
given twice, and its document is the document of the resource. -/
structure IsReadAs (header : List String) (r : Resource Float) (cells : List String) : Prop where
  length : cells.length = header.length
  single : ∀ column ∈ columns, header.count column ≤ 1
  document : Resource.read? (Row.document (header.zip cells)) = some r

theorem isReadAs_iff {header cells : List String} {r : Resource Float} :
    IsReadAs header r cells ↔
      ∃ row, (Row.of? header cells).bind (fun row => row.resource?.map (row, ·)) = some (row, r) := by
  constructor
  · rintro ⟨hlength, hsingle, hdocument⟩
    have hof : Row.of? header cells = some (header.zip cells) := by
      refine if_pos ⟨hlength.symm, List.all_eq_true.mpr ?_⟩
      intro column hcolumn
      exact decide_eq_true (hsingle column hcolumn)
    rw [Row.read?_document] at hdocument
    refine ⟨header.zip cells, ?_⟩
    rw [hof, Option.bind_some, hdocument, Option.map_some]
  · rintro ⟨row, hrow⟩
    obtain ⟨row', hof, hresource⟩ := Option.bind_eq_some_iff.mp hrow
    obtain ⟨r', hread, hpair⟩ := Option.map_eq_some_iff.mp hresource
    obtain ⟨rfl, rfl⟩ := Prod.mk.inj hpair
    unfold Row.of? at hof
    split at hof
    · rename_i hshape
      obtain ⟨hlength, hall⟩ := hshape
      obtain rfl := Option.some.inj hof
      refine ⟨hlength.symm, ?_, ?_⟩
      · intro column hcolumn
        exact of_decide_eq_true (List.all_eq_true.mp hall column hcolumn)
      · rw [Row.read?_document, hread]
    · cases hof

/-- The rows behind a header are accepted if each of them is read, wherever they stand. -/
theorem readRows_eq_ok_iff {file : String} {header : List String} {number : Nat}
    {rows : List (List String)} {resources : List (Resource Float)} :
    (readRows file header number rows).result = .ok resources ↔
      List.Forall₂ (IsReadAs header) resources rows := by
  induction rows generalizing number resources with
  | nil =>
    rw [List.forall₂_nil_right_iff]
    constructor
    · intro h
      exact (Except.ok.inj h).symm
    · rintro rfl
      rfl
  | cons cells rest ih =>
    rw [List.forall₂_cons_right_iff]
    constructor
    · intro h
      unfold readRows at h
      split at h
      · cases h
      · rename_i row r hrow
        have hrest : (readRows file header (number + 1) rest).result.map (r :: ·) =
            .ok resources := h
        cases hothers : (readRows file header (number + 1) rest).result with
        | error e =>
          rw [hothers] at hrest
          cases hrest
        | ok others =>
          rw [hothers] at hrest
          obtain rfl := Except.ok.inj hrest
          exact ⟨r, others, isReadAs_iff.mpr ⟨row, hrow⟩, ih.mp hothers, rfl⟩
    · rintro ⟨r, others, hr, hothers, rfl⟩
      obtain ⟨row, hrow⟩ := isReadAs_iff.mp hr
      rw [readRows, hrow]
      show (readRows file header (number + 1) rest).result.map (r :: ·) = .ok (r :: others)
      rw [ih.mpr hothers]
      rfl

theorem result_readTable (file text : String) :
    (readTable file text).result =
      (readRows file ((Csv.read text).headD []) 2 (Csv.read text).tail).result := by
  unfold readTable
  cases Csv.read text with
  | nil => rfl
  | cons header rows => rfl

/-- A table is accepted exactly if every row behind its header is read as a resource, and its
resources are those of its rows, in order. They are the same as those that are read from the array of
the documents of its rows. -/
theorem table_means_documents {file : String} (htable : isTable file = true) (text : String)
    (resources : List (Resource Float)) :
    let header := (Csv.read text).headD []
    let rows := (Csv.read text).tail
    ((read file (some text)).result = .ok resources ↔
      List.Forall₂ (IsReadAs header) resources rows) ∧
    ((read file (some text)).result = .ok resources →
      list? Resource.read? (ofList (fun cells => Row.document (header.zip cells)) rows) =
        some resources) := by
  intro header rows
  have hresult : (read file (some text)).result = (readTable file text).result := by
    unfold read
    rw [htable]
  have haccepted : (read file (some text)).result = .ok resources ↔
      List.Forall₂ (IsReadAs header) resources rows := by
    rw [hresult, result_readTable]
    exact readRows_eq_ok_iff
  refine ⟨haccepted, fun hread => ?_⟩
  have hrows := haccepted.mp hread
  exact list?_of_forall₂ (hrows.imp fun r cells hcells => hcells.document)

end Inventory

namespace Sample

/-- A table with columns in an order of its own. Its first row has blanks around a capacity, an empty
kind and nested tags with a repeated name; its second row has texts where others have numbers. -/
def tableText : String :=
  "Tags,CPU,Rack,ResourceName,ResourceType,ResourceId,MemoryGB\n" ++
    "\"\x7b\"\"a\"\": [1, \x7b\x7d], \"\"b\"\": 2, \"\"b\"\": null\x7d\", 4 ,7,web,,1,1e3\n" ++
    " \t,much,,\"db, main\",vm,2,inf\n"

end Sample

theorem Inventory.table_means_documents_columns :
    let header := (Csv.read Sample.tableText).headD []
    let rows := (Csv.read Sample.tableText).tail
    isTable "fleet.CSV" = true ∧ ∃ resources,
      (read "fleet.CSV" (some Sample.tableText)).result = .ok resources ∧
      List.Forall₂ (IsReadAs header) resources rows ∧ rows.length = 2 ∧
      list? Resource.read? (ofList (fun cells => Row.document (header.zip cells)) rows) =
        some resources := by
  intro header rows
  have htable : isTable "fleet.CSV" = true := by decide +kernel
  have hok : (read "fleet.CSV" (some Sample.tableText)).result.isOk = true := by decide +kernel
  have hrows : rows.length = 2 := by decide +kernel
  cases hread : (read "fleet.CSV" (some Sample.tableText)).result with
  | error e =>
    rw [hread] at hok
    cases hok
  | ok resources =>
    obtain ⟨haccepted, hdocuments⟩ := table_means_documents htable Sample.tableText resources
    exact ⟨htable, resources, rfl, haccepted.mp hread, hrows, hdocuments hread⟩

end Chargeback
