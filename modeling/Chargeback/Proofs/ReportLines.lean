import Chargeback.Proofs.Fields
import Chargeback.Proofs.Numerals
import Chargeback.Report.Explanation

/-!
# Lines of reports

A report is a list of lines, and the names in them may hold any text. Still its own lines are told
apart by how they start: with fixed words, with a mark or with the frame of a table. And a table is read
back cell by cell, blanks around the cells aside, if every cell is one line without a bar in it.
-/

namespace Chargeback.Report

/-! ## How lines start -/

/-- Whether a line starts with a text. -/
def starts (start line : String) : Bool := start.toList.isPrefixOf line.toList

/-- Neither of two texts starts with the other. -/
def areApart (s t : String) : Bool := !starts s t && !starts t s

theorem starts_iff {start line : String} :
    starts start line = true ↔ start.toList <+: line.toList :=
  List.isPrefixOf_iff_prefix

theorem starts_append {start a : String} (h : starts start a = true) (b : String) :
    starts start (a ++ b) = true := by
  rw [starts_iff, String.toList_append]
  exact (starts_iff.mp h).trans (List.prefix_append _ _)

theorem starts_append_of_areApart {start a : String} (h : areApart start a = true) (b : String) :
    starts start (a ++ b) = false := by
  obtain ⟨hstart, ha⟩ := Bool.and_eq_true_iff.mp h
  rw [Bool.not_eq_true', ← Bool.not_eq_true, starts_iff] at hstart ha
  rw [← Bool.not_eq_true, starts_iff, String.toList_append]
  intro hprefix
  exact (List.prefix_or_prefix_of_prefix hprefix (List.prefix_append _ _)).elim hstart ha

theorem starts_of_head? {start line : String} {c d : Char} (hstart : start.toList.head? = some c)
    (hline : line.toList.head? = some d) (hne : c ≠ d) : starts start line = false := by
  obtain ⟨s, hs⟩ := List.head?_eq_some_iff.mp hstart
  obtain ⟨l, hl⟩ := List.head?_eq_some_iff.mp hline
  unfold starts
  rw [hs, hl, List.isPrefixOf_cons_cons, beq_eq_false_iff_ne.mpr hne, Bool.false_and]

theorem head?_append {a : String} (ha : a.toList ≠ []) (b : String) :
    (a ++ b).toList.head? = a.toList.head? := by
  rw [String.toList_append, List.head?_append_of_ne_nil _ ha]

/-- A line that starts with a number starts with a digit. -/
theorem exists_head?_natText (n : ℕ) (text : String) :
    ∃ c, (Number.natText n ++ text).toList.head? = some c ∧ c.isDigit = true := by
  obtain ⟨c, rest, hdigits⟩ := List.exists_cons_of_ne_nil (Number.digitsOf_ne_nil n)
  refine ⟨c, ?_, Number.isDigit_of_mem_digitsOf (hdigits ▸ List.mem_cons_self)⟩
  rw [String.toList_append, Number.natText, String.toList_ofList, hdigits]
  rfl

theorem starts_natText {start : String} {c : Char} (hstart : start.toList.head? = some c)
    (hc : c.isDigit = false) (n : ℕ) (text : String) :
    starts start (Number.natText n ++ text) = false := by
  obtain ⟨d, hd, hdigit⟩ := exists_head?_natText n text
  refine starts_of_head? hstart hd ?_
  rintro rfl
  rw [hc] at hdigit
  cases hdigit

/-! ## Lines that start otherwise -/

/-- None of some lines starts with a text. -/
def Lacks (start : String) (lines : List String) : Prop := ∀ line ∈ lines, starts start line = false

section

variable {start : String}

@[simp]
theorem lacks_nil : Lacks start [] := List.forall_mem_nil _

@[simp]
theorem lacks_cons {first : String} {rest : List String} :
    Lacks start (first :: rest) ↔ starts start first = false ∧ Lacks start rest :=
  List.forall_mem_cons

@[simp]
theorem lacks_append {front back : List String} :
    Lacks start (front ++ back) ↔ Lacks start front ∧ Lacks start back :=
  List.forall_mem_append

theorem Lacks.notMem {lines : List String} (h : Lacks start lines) {line : String}
    (hline : starts start line = true) : line ∉ lines := by
  intro hmem
  rw [h line hmem] at hline
  cases hline

end

/-! ## Tables and headings -/

/-- The characters that the lines of a table start with: those of its frame, and that of the line that
stands for an empty table. -/
def frameMarks : List Char := ['│', '╭', '├', '╰', 'N']

theorem head?_rule {left : String} (hleft : left.toList ≠ []) (middle right : String)
    (widths : List ℕ) : (rule left middle right widths).toList.head? = left.toList.head? := by
  unfold rule
  rw [head?_append (by simp [hleft]), head?_append hleft]

theorem head?_of_mem_rowLines {widths : List ℕ} {row : List String} {line : String}
    (h : line ∈ rowLines widths row) : line.toList.head? = some '│' := by
  -- A cell may begin with any mark, but the frame stands in front of it.
  obtain ⟨k, -, rfl⟩ := List.mem_map.mp h
  rw [head?_append (by simp), head?_append (by decide)]
  rfl

theorem head?_of_mem_table {header : List String} {rows : List (List String)} {line : String}
    (h : line ∈ table header rows) : ∃ c ∈ frameMarks, line.toList.head? = some c := by
  unfold table at h
  split at h
  · rw [List.mem_singleton.mp h]
    exact ⟨'N', by decide, rfl⟩
  · simp only [List.cons_append, List.mem_cons, List.mem_append, List.mem_flatMap,
      List.not_mem_nil, or_false] at h
    rcases h with rfl | (h | rfl | ⟨row, -, h⟩) | rfl
    · exact ⟨'╭', by decide, head?_rule (by decide) ..⟩
    · exact ⟨'│', by decide, head?_of_mem_rowLines h⟩
    · exact ⟨'├', by decide, head?_rule (by decide) ..⟩
    · exact ⟨'│', by decide, head?_of_mem_rowLines h⟩
    · exact ⟨'╰', by decide, head?_rule (by decide) ..⟩

/-- What does not start like a frame stands nowhere in front of a table's lines. -/
theorem lacks_table {start : String} {c : Char} (hstart : start.toList.head? = some c)
    (hc : c ∉ frameMarks) (header : List String) (rows : List (List String)) :
    Lacks start (table header rows) := by
  intro line hline
  obtain ⟨mark, hmark, hhead⟩ := head?_of_mem_table hline
  exact starts_of_head? hstart hhead fun heq => hc (heq ▸ hmark)

theorem lacks_subheading {start title : String} (htitle : starts start title = false)
    (hbar : starts start (repeated 60 '-') = false) : Lacks start (subheading title) :=
  lacks_cons.mpr ⟨htitle, lacks_cons.mpr ⟨hbar, lacks_nil⟩⟩

namespace Portfolio

/-- A part of the report has its title, a bar and a table, or nothing at all. -/
theorem lacks_part {start title : String} {c : Char} (hstart : start.toList.head? = some c)
    (hc : c ∉ frameMarks) (htitle : starts start title = false)
    (hbar : starts start (repeated 60 '-') = false) (header : List String)
    (rows : List (List String)) : Lacks start (part title header rows) := by
  unfold part
  split
  · exact lacks_nil
  · exact lacks_append.mpr ⟨lacks_subheading htitle hbar, lacks_table hstart hc header rows⟩

theorem lacks_spaced {start : String} {lines : List String} (h : Lacks start lines)
    (hempty : starts start "" = false) : Lacks start (spaced lines) := by
  unfold spaced
  split
  · exact lacks_nil
  · exact lacks_append.mpr ⟨h, lacks_cons.mpr ⟨hempty, lacks_nil⟩⟩

end Portfolio

/-! ## Tables are read back -/

/-- A cell is one line without a bar in it. -/
def IsPlain (cell : String) : Prop := ∀ c ∈ cell.toList, c ≠ '\n' ∧ c ≠ '│'

instance (cell : String) : Decidable (IsPlain cell) := List.decidableBAll _ _

/-- The cells of a line that a bar stands in front of, blanks around them aside. -/
def readRow? (line : String) : Option (List String) :=
  match line.toList with
  | '│' :: rest =>
    some ((rest.splitOn '│').dropLast.map fun cell => String.ofList (Text.trimChars cell))
  | _ => none

theorem splitAll_of_notMem {mark : Char} {s : List Char} (h : mark ∉ s) :
    Text.splitAll mark s = [s] := by
  induction s with
  | nil => rfl
  | cons c rest ih =>
    obtain ⟨hc, hrest⟩ := not_or.mp (mt List.mem_cons.mpr h)
    rw [Text.splitAll, if_neg (Ne.symm hc), ih hrest]

/-- Blanks around a text do not count. -/
theorem trimChars_between {front back : List Char} (hfront : ∀ c ∈ front, Text.isBlank c = true)
    (hback : ∀ c ∈ back, Text.isBlank c = true) (s : List Char) :
    Text.trimChars (front ++ s ++ back) = Text.trimChars s := by
  have hstart : Text.trimStart back = [] := List.dropWhile_eq_nil_iff.mpr hback
  have hend (t : List Char) : Text.trimEnd (t ++ back) = Text.trimEnd t := by
    unfold Text.trimEnd
    rw [List.reverse_append, List.dropWhile_append_of_pos fun c hc => hback c (List.mem_reverse.mp hc)]
  unfold Text.trimChars
  rw [List.append_assoc]
  change Text.trimEnd ((front ++ (s ++ back)).dropWhile Text.isBlank) = _
  rw [List.dropWhile_append_of_pos hfront, List.dropWhile_append]
  split
  · rename_i hnone
    have hnil : Text.trimStart s = [] := List.isEmpty_iff.mp hnone
    change Text.trimEnd (Text.trimStart back) = _
    rw [hstart, hnil]
  · exact hend _

/-- A line of cells between bars, as one text with bars between its parts. -/
theorem bars_eq_intercalate (first : List Char) (others : List (List Char)) :
    ' ' :: ([' ', '│', ' '].intercalate (first :: others) ++ [' ', '│']) =
      ['│'].intercalate (((first :: others).map fun part => ' ' :: (part ++ [' '])) ++ [[]]) := by
  induction others generalizing first with
  | nil => simp [List.intercalate_cons_cons]
  | cons next rest ih =>
    have hrest := ih next
    rw [List.map_cons, List.cons_append] at hrest
    rw [List.map_cons, List.map_cons, List.cons_append, List.cons_append, List.intercalate_cons_cons,
      List.intercalate_cons_cons, ← hrest]
    simp

/-- The line of a row of plain cells. -/
def rowLine (widths : List ℕ) (row : List String) : String :=
  "│ " ++ String.intercalate " │ "
    (List.zipWith (fun width cell => String.ofList (Text.padTo width cell.toList)) widths row) ++ " │"

theorem rowLines_of_isPlain {row : List String} (hrow : row ≠ []) (h : ∀ cell ∈ row, IsPlain cell)
    (widths : List ℕ) : rowLines widths row = [rowLine widths row] := by
  have hcells : row.map cellLines = row.map fun cell => [cell.toList] :=
    List.map_congr_left fun cell hcell => splitAll_of_notMem fun hmem => (h cell hcell _ hmem).1 rfl
  have hheight : ((row.map fun cell => [cell.toList]).map List.length).foldl max 0 = 1 := by
    rw [List.map_map]
    obtain ⟨cell, rest, rfl⟩ := List.exists_cons_of_ne_nil hrow
    clear hcells h hrow
    induction rest with
    | nil => rfl
    | cons next rest ih => simpa using ih
  unfold rowLines
  simp only [hcells, hheight, List.range_one, List.map_cons, List.map_nil, List.zipWith_map_right]
  rfl

theorem notMem_padTo {cell : String} (h : IsPlain cell) (width : ℕ) :
    '│' ∉ Text.padTo width cell.toList := by
  intro hmem
  rcases List.mem_append.mp hmem with hmem | hmem
  · exact (h _ hmem).2 rfl
  · cases List.eq_of_mem_replicate hmem

theorem trimChars_padTo (width : ℕ) (s : List Char) :
    Text.trimChars (' ' :: (Text.padTo width s ++ [' '])) = Text.trimChars s := by
  have hblank : Text.isBlank ' ' = true := by decide
  have hback : ∀ c ∈ List.replicate (width - Text.columns s) ' ' ++ [' '], Text.isBlank c = true := by
    intro c hc
    rcases List.mem_append.mp hc with hc | hc
    · rw [List.eq_of_mem_replicate hc, hblank]
    · rw [List.mem_singleton.mp hc, hblank]
  have hfront : ∀ c ∈ [' '], Text.isBlank c = true := List.forall_mem_singleton.mpr hblank
  unfold Text.padTo
  rw [List.append_assoc]
  exact trimChars_between hfront hback s

theorem readRow?_rowLine {widths : List ℕ} {row : List String} (hrow : row ≠ [])
    (hlength : widths.length = row.length) (h : ∀ cell ∈ row, IsPlain cell) :
    readRow? (rowLine widths row) = some (row.map Text.trim) := by
  obtain ⟨parts, hparts⟩ : ∃ parts, parts =
      (widths.zip row).map fun (width, cell) => Text.padTo width cell.toList := ⟨_, rfl⟩
  have hline : (rowLine widths row).toList =
      '│' :: ' ' :: ([' ', '│', ' '].intercalate parts ++ [' ', '│']) := by
    unfold rowLine
    rw [String.toList_append, String.toList_append, String.toList_intercalate, hparts, List.zip]
    simp [List.map_zipWith]
  have hbars : ∀ part ∈ parts, '│' ∉ part := by
    rw [hparts]
    intro part hpart
    obtain ⟨⟨width, cell⟩, hmem, rfl⟩ := List.mem_map.mp hpart
    exact notMem_padTo (h cell (List.of_mem_zip hmem).2) width
  have htrim : (parts.map fun part => ' ' :: (part ++ [' '])).map
      (fun cell => String.ofList (Text.trimChars cell)) = row.map Text.trim := by
    rw [hparts, List.map_map, List.map_map]
    refine (List.map_congr_left fun entry _ => ?_ :
      _ = (widths.zip row).map (Text.trim ∘ Prod.snd)).trans ?_
    · exact congrArg String.ofList (trimChars_padTo entry.1 entry.2.toList)
    · rw [← List.map_map, List.map_snd_zip hlength.ge]
  cases parts with
  | nil =>
    rw [List.map_nil, List.map_nil] at htrim
    exact absurd (List.map_eq_nil_iff.mp htrim.symm) hrow
  | cons first others =>
    have hsplit : (' ' :: ([' ', '│', ' '].intercalate (first :: others) ++ [' ', '│'])).splitOn '│' =
        ((first :: others).map fun part => ' ' :: (part ++ [' '])) ++ [[]] := by
      rw [bars_eq_intercalate]
      refine List.splitOn_intercalate '│' ?_ (List.append_ne_nil_of_right_ne_nil _ (by simp))
      intro part hpart
      rcases List.mem_append.mp hpart with hpart | hpart
      · obtain ⟨inner, hinner, rfl⟩ := List.mem_map.mp hpart
        simpa using hbars inner hinner
      · rw [List.mem_singleton.mp hpart]
        exact List.not_mem_nil
    unfold readRow?
    rw [hline]
    simp only [hsplit, List.dropLast_concat, htrim]

theorem length_columnWidths {header : List String} {rows : List (List String)}
    (h : ∀ row ∈ rows, row.length = header.length) :
    (columnWidths header rows).length = header.length := by
  refine List.foldlRecOn (motive := fun widths : List ℕ => widths.length = header.length) rows _
    (List.length_map _) ?_
  intro widths hwidths row hrow
  rw [List.length_zipWith, hwidths, List.length_map, h row hrow, Nat.min_self]

theorem readRow?_eq_none {line : String} (h : starts "│" line = false) : readRow? line = none := by
  unfold readRow?
  split
  · rename_i rest hline
    have hstart : starts "│" line = true := starts_iff.mpr (hline ▸ List.prefix_append ['│'] rest)
    rw [h] at hstart
    cases hstart
  · rfl

theorem Lacks.filterMap_readRow? {lines : List String} (h : Lacks "│" lines) :
    lines.filterMap readRow? = [] :=
  List.filterMap_eq_nil_iff.mpr fun line hline => readRow?_eq_none (h line hline)

theorem readRow?_rule (left : String) {c : Char} (hleft : left.toList.head? = some c) (hc : c ≠ '│')
    (middle right : String) (widths : List ℕ) : readRow? (rule left middle right widths) = none := by
  have hne : left.toList ≠ [] := by
    intro hnil
    rw [hnil] at hleft
    cases hleft
  have hhead := (head?_rule hne middle right widths).trans hleft
  exact readRow?_eq_none (starts_of_head? rfl hhead hc.symm)

/-- A table of plain cells is read back. -/
theorem filterMap_readRow?_table {header : List String} {rows : List (List String)}
    (hheader : header ≠ []) (hplain : ∀ cell ∈ header, IsPlain cell)
    (h : ∀ row ∈ rows, row.length = header.length ∧ ∀ cell ∈ row, IsPlain cell) :
    (table header rows).filterMap readRow? =
      if rows = [] then [] else (header :: rows).map (List.map Text.trim) := by
  by_cases hrows : rows = []
  · rw [if_pos hrows, hrows]
    rfl
  have hlength : (columnWidths header rows).length = header.length :=
    length_columnWidths fun row hrow => (h row hrow).1
  have hread {row : List String} (hrow : row.length = header.length)
      (hcells : ∀ cell ∈ row, IsPlain cell) :
      (rowLines (columnWidths header rows) row).filterMap readRow? = [row.map Text.trim] := by
    have hne : row ≠ [] := by
      rintro rfl
      exact hheader (List.length_eq_zero_iff.mp hrow.symm)
    rw [rowLines_of_isPlain hne hcells, List.filterMap_cons,
      readRow?_rowLine hne (hlength.trans hrow.symm) hcells]
    rfl
  have hall : (rows.flatMap (rowLines (columnWidths header rows))).filterMap readRow? =
      rows.map (List.map Text.trim) := by
    rw [List.filterMap_flatMap, List.map_eq_flatMap]
    exact List.flatMap_congr fun row hrow => hread (h row hrow).1 (h row hrow).2
  unfold table
  rw [if_neg hrows, if_neg (by rwa [List.isEmpty_iff])]
  simp only [List.filterMap_append, List.filterMap_cons, List.filterMap_nil, hread rfl hplain, hall,
    readRow?_rule "╭" rfl (by decide), readRow?_rule "├" rfl (by decide),
    readRow?_rule "╰" rfl (by decide), List.append_nil]
  rfl

example : (table ["Rank", "VM Name"] [["1", "web"], ["2", ""]]).filterMap readRow? =
    [["Rank", "VM Name"], ["1", "web"], ["2", ""]] := by
  decide

end Chargeback.Report
