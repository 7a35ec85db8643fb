import Chargeback.Csv

/-!
# Tables are read as they are written

The reader of a table goes through its text character by character. Behind the text of a cell it
holds the characters of this cell and nothing else has changed, and whether the cell stands between
quotes or not, the comma or line end that follows closes it. So the cells of a record are collected
one by one, and so are the records. Only a record without cells has the text of an empty line; every
other one is read back.
-/

namespace Chargeback.Csv

namespace Progress

variable {state : State} {held : List Char} {cells : List String} {records : List (List String)}

/-! ## Characters -/

/-- Where no quotes are open, a character that needs none is taken into the cell. -/
theorem step_of_not_needsQuotes (hstate : state ≠ .quoted) {c : Char}
    (hc : needsQuotes c = false) :
    step ⟨state, held, cells, records⟩ c = ⟨.plain, c :: held, cells, records⟩ := by
  simp only [needsQuotes, Bool.or_eq_false_iff, decide_eq_false_iff_not] at hc
  obtain ⟨⟨⟨hcomma, hquote⟩, hline⟩, hreturn⟩ := hc
  have hend : ¬ (c = '\n' ∨ c = '\r') := by
    rintro (h | h)
    · exact hline h
    · exact hreturn h
  have hplain (opens : Bool) : stepPlain ⟨state, held, cells, records⟩ opens c =
      ⟨.plain, c :: held, cells, records⟩ := by
    rw [stepPlain, if_neg (fun h => hquote h.1), if_neg hcomma, if_neg hend]
    rfl
  cases state with
  | startRecord => exact (if_neg hend).trans (hplain true)
  | startCell => exact hplain true
  | plain => exact hplain false
  | quoted => exact absurd rfl hstate
  | quoteSeen => exact (if_neg hquote).trans (hplain false)

/-- Where no quotes are open, a comma ends the cell. -/
theorem step_comma (hstate : state ≠ .quoted) :
    step ⟨state, held, cells, records⟩ ',' =
      ⟨.startCell, [], String.ofList held.reverse :: cells, records⟩ := by
  cases state with
  | quoted => exact absurd rfl hstate
  | _ => rfl

/-- Where no quotes are open, a line end ends the cell and the record, unless the line is empty. -/
theorem step_newLine (hstate : state ≠ .quoted) (hline : state ≠ .startRecord) :
    step ⟨state, held, cells, records⟩ '\n' =
      ⟨.startRecord, [], [], (String.ofList held.reverse :: cells).reverse :: records⟩ := by
  cases state with
  | startRecord => exact absurd rfl hline
  | quoted => exact absurd rfl hstate
  | _ => rfl

/-! ## Cells -/

/-- Between quotes, two quotes stand for one and all else for itself. -/
theorem foldl_doubleQuotes (s : List Char) :
    (doubleQuotes s).foldl step ⟨.quoted, held, cells, records⟩ =
      ⟨.quoted, s.reverse ++ held, cells, records⟩ := by
  induction s generalizing held with
  | nil => rfl
  | cons c rest ih =>
    have hrest := @ih (c :: held)
    rw [List.reverse_cons, List.append_assoc]
    by_cases hc : c = '"'
    · subst hc
      exact hrest
    · have htext : doubleQuotes (c :: rest) = c :: doubleQuotes rest := by
        rw [doubleQuotes, List.flatMap_cons, if_neg hc]
        rfl
      have hstep : step ⟨.quoted, held, cells, records⟩ c =
          ⟨.quoted, c :: held, cells, records⟩ := if_neg hc
      rw [htext, List.foldl_cons, hstep]
      exact hrest

theorem foldl_plain {s : List Char} (hs : ∀ c ∈ s, needsQuotes c = false) :
    s.foldl step ⟨.plain, held, cells, records⟩ = ⟨.plain, s.reverse ++ held, cells, records⟩ := by
  induction s generalizing held with
  | nil => rfl
  | cons c rest ih =>
    have hc := hs c List.mem_cons_self
    have hrest := @ih (c :: held) fun d hd => hs d (List.mem_cons_of_mem c hd)
    rw [List.foldl_cons, step_of_not_needsQuotes State.noConfusion hc, List.reverse_cons,
      List.append_assoc]
    exact hrest

/-- In front of a cell no quotes are open and nothing is held. -/
def IsStart (state : State) : Prop := state = .startRecord ∨ state = .startCell

/-- The state behind the text of a cell: only an empty text leaves the state in front of it. -/
def behind (state : State) (s : List Char) : State :=
  if s.any needsQuotes then .quoteSeen else if s = [] then state else .plain

theorem behind_ne_quoted (hstate : IsStart state) (s : List Char) : behind state s ≠ .quoted := by
  unfold behind
  split
  · exact State.noConfusion
  · split
    · rcases hstate with rfl | rfl <;> exact State.noConfusion
    · exact State.noConfusion

theorem behind_ne_startRecord {s : List Char} (h : state ≠ .startRecord ∨ s ≠ []) :
    behind state s ≠ .startRecord := by
  unfold behind
  split
  · exact State.noConfusion
  · split
    · rename_i hempty
      exact h.resolve_right (not_not_intro hempty)
    · exact State.noConfusion

/-- Behind the text of a cell, the cell is held. -/
theorem foldl_cellText (hstate : IsStart state) (s : List Char) :
    (cellText s).foldl step ⟨state, [], cells, records⟩ =
      ⟨behind state s, s.reverse, cells, records⟩ := by
  unfold cellText behind
  by_cases hquotes : s.any needsQuotes = true
  · rw [if_pos hquotes, if_pos hquotes, List.foldl_cons, List.foldl_append]
    have hopen : step ⟨state, [], cells, records⟩ '"' = ⟨.quoted, [], cells, records⟩ := by
      rcases hstate with rfl | rfl <;> rfl
    rw [hopen, foldl_doubleQuotes, List.append_nil]
    rfl
  · rw [if_neg hquotes, if_neg hquotes]
    cases s with
    | nil => rfl
    | cons c rest =>
      simp only [List.any_eq_true, not_exists, not_and, Bool.not_eq_true] at hquotes
      have hc := hquotes c List.mem_cons_self
      have hrest : ∀ d ∈ rest, needsQuotes d = false :=
        fun d hd => hquotes d (List.mem_cons_of_mem c hd)
      have hopen : state ≠ .quoted := by
        rcases hstate with rfl | rfl <;> exact State.noConfusion
      rw [List.foldl_cons, step_of_not_needsQuotes hopen hc, foldl_plain hrest,
        if_neg (List.cons_ne_nil c rest), List.reverse_cons]

/-! ## Records -/

/-- The rest of a record is read behind its first cells, unless it makes an empty line. -/
theorem foldl_cellsText (hstate : IsStart state) {record : List String} (hsome : record ≠ [])
    (hline : state ≠ .startRecord ∨ record ≠ [""]) :
    (cellsText record ++ ['\n']).foldl step ⟨state, [], cells, records⟩ =
      ⟨.startRecord, [], [], (cells.reverse ++ record) :: records⟩ := by
  induction record generalizing state cells with
  | nil => exact absurd rfl hsome
  | cons cell rest ih =>
    have hquoted := behind_ne_quoted hstate cell.toList
    cases rest with
    | nil =>
      have hnonempty : state ≠ .startRecord ∨ cell.toList ≠ [] := by
        refine hline.imp_right fun hcell hempty => hcell ?_
        rw [String.toList_eq_nil_iff.mp hempty]
      rw [cellsText, List.foldl_append, foldl_cellText hstate, List.foldl_cons,
        step_newLine hquoted (behind_ne_startRecord hnonempty), List.reverse_reverse,
        String.ofList_toList, List.reverse_cons]
      rfl
    | cons next others =>
      have hrest := @ih .startCell (cell :: cells) (Or.inr rfl) (List.cons_ne_nil next others)
        (Or.inl State.noConfusion)
      have htext : cellsText (cell :: next :: others) =
          cellText cell.toList ++ ',' :: cellsText (next :: others) := rfl
      rw [htext, List.append_assoc, List.foldl_append, foldl_cellText hstate, List.cons_append,
        List.foldl_cons, step_comma hquoted, List.reverse_reverse, String.ofList_toList, hrest,
        List.reverse_cons, List.append_assoc]
      rfl

/-- A record is read behind the records in front of it. -/
theorem foldl_recordText {record : List String} (hsome : record ≠ []) :
    (recordText record).foldl step ⟨.startRecord, [], [], records⟩ =
      ⟨.startRecord, [], [], record :: records⟩ := by
  unfold recordText
  by_cases hline : record = [""]
  · subst hline
    rfl
  · rw [if_neg hline, foldl_cellsText (Or.inl rfl) hsome (Or.inr hline)]
    rfl

theorem foldl_records {table : List (List String)} (hsome : ∀ record ∈ table, record ≠ []) :
    (table.flatMap recordText).foldl step ⟨.startRecord, [], [], records⟩ =
      ⟨.startRecord, [], [], table.reverse ++ records⟩ := by
  induction table generalizing records with
  | nil => rfl
  | cons record rest ih =>
    have hrest := @ih (record :: records) fun other hother =>
      hsome other (List.mem_cons_of_mem record hother)
    rw [List.flatMap_cons, List.foldl_append, foldl_recordText (hsome record List.mem_cons_self),
      hrest, List.reverse_cons, List.append_assoc]
    rfl

end Progress

/-- The text of a table is read as the table. What is needed is that every record has a cell, and that
the first one does not begin with a byte order mark. -/
theorem read_text {table : List (List String)} (hsome : ∀ record ∈ table, record ≠ [])
    (hmark : stripMark (text table).toList = (text table).toList) :
    read (text table) = table := by
  have hread := @Progress.foldl_records [] table hsome
  rw [List.append_nil] at hread
  rw [read, hmark, text, String.toList_ofList, Progress.start, hread, Progress.finish,
    List.reverse_reverse]

example : read (text [["a, \"b\"", "c\r\nd"], [""], ["", ""]]) =
    [["a, \"b\"", "c\r\nd"], [""], ["", ""]] := rfl

end Chargeback.Csv
