import Chargeback.Proofs.ReportLines

/-!
# What an explanation looks like

The report on one resource says in lines of its own which profile priced the resource and for how much,
or warns that no profile did. In between, its tables list every candidate with its outcome and every
charge with its amount, one row each.
-/

namespace Chargeback.Report.Explanation

/-! ## Lines that tell the outcome -/

/-- How the lines start that tell the outcome: the profile, its price, and warnings. -/
def outcomeStarts : List String := ["Matched Profile: ", "Monthly Total: ", "⚠ "]

/-- Whether a line tells the outcome. -/
def tellsOutcome (line : String) : Bool := outcomeStarts.any (starts · line)

theorem tellsOutcome_append {a : String} (h : tellsOutcome a = true) (b : String) :
    tellsOutcome (a ++ b) = true := by
  obtain ⟨s, hs, hstarts⟩ := List.any_eq_true.mp h
  exact List.any_eq_true.mpr ⟨s, hs, starts_append hstarts b⟩

theorem filter_tellsOutcome_of_lacks {lines : List String} (h : ∀ s ∈ outcomeStarts, Lacks s lines) :
    lines.filter tellsOutcome = [] := by
  refine List.filter_eq_nil_iff.mpr fun line hline => ?_
  rw [tellsOutcome, List.any_eq_true]
  rintro ⟨s, hs, hstarts⟩
  exact (h s hs).notMem hstarts hline

theorem filter_tellsOutcome_table (header : List String) (rows : List (List String)) :
    (table header rows).filter tellsOutcome = [] := by
  refine filter_tellsOutcome_of_lacks ?_
  unfold outcomeStarts
  simp only [List.forall_mem_cons]
  exact ⟨lacks_table rfl (by decide) _ _, lacks_table rfl (by decide) _ _,
    lacks_table rfl (by decide) _ _, List.forall_mem_nil _⟩

/-! ## The parts of the report -/

/-- The lines about the resource are no rows and do not tell the outcome. -/
theorem forall_lacks_overview (r : Resource Float) :
    ∀ s ∈ "│" :: outcomeStarts, Lacks s (overview r) := by
  unfold outcomeStarts overview heading
  simp (disch := decide) only [List.forall_mem_cons, List.not_mem_nil, false_implies, implies_true,
    lacks_append, lacks_cons, lacks_nil, and_true, true_and, String.append_assoc,
    starts_append_of_areApart]
  decide

theorem forall_lacks_expenses (currency : String) (b : Breakdown Float) :
    ∀ s ∈ "│" :: outcomeStarts, Lacks s (expenses currency b) := by
  unfold expenses outcomeStarts
  split
  · simp (disch := decide) only [List.forall_mem_cons, List.not_mem_nil, false_implies, implies_true,
      lacks_cons, lacks_nil, and_true, String.append_assoc, starts_append_of_areApart]
  · exact fun s _ => lacks_nil

theorem forall_lacks_subheading :
    ∀ s ∈ "│" :: outcomeStarts, Lacks s (subheading "Published Profiles") := by
  unfold Lacks
  decide

/-- The warning about items that had to be replaced, if there are any. -/
def degradedWarnings (b : Breakdown Float) : List String :=
  if 0 < b.degradedItems then
    [warning (Number.natText b.degradedItems ++
      " line item(s) used a fallback because the component data was unusable")]
  else []

theorem forall_lacks_info (text : String) : ∀ s ∈ "│" :: outcomeStarts, Lacks s [info text] := by
  unfold outcomeStarts info
  simp (disch := decide) only [List.forall_mem_cons, List.not_mem_nil, false_implies, implies_true,
    lacks_cons, lacks_nil, and_true, starts_append_of_areApart]

theorem remarks_eq (currency : String) (b : Breakdown Float) :
    remarks currency b =
      (if b.oneTime == Scalar.zero then [] else
        [info ("One-time charges of " ++ Money.inCurrency currency b.oneTime ++
          " are amortized into the monthly total")]) ++ degradedWarnings b := rfl

theorem filter_tellsOutcome_remarks (currency : String) (b : Breakdown Float) :
    (remarks currency b).filter tellsOutcome = degradedWarnings b := by
  have hwarning (text : String) : tellsOutcome (warning text) = true :=
    tellsOutcome_append (by decide) text
  have hinfo (text : String) : [info text].filter tellsOutcome = [] :=
    filter_tellsOutcome_of_lacks fun s hs => forall_lacks_info text s (.tail _ hs)
  have hdegraded : (degradedWarnings b).filter tellsOutcome = degradedWarnings b := by
    unfold degradedWarnings
    split
    · rw [List.filter_cons_of_pos (hwarning _), List.filter_nil]
    · rfl
  rw [remarks_eq, List.filter_append, hdegraded]
  split
  · rfl
  · rw [hinfo, List.nil_append]

theorem lacks_remarks (currency : String) (b : Breakdown Float) :
    Lacks "│" (remarks currency b) := by
  have hdegraded : Lacks "│" (degradedWarnings b) := by
    unfold degradedWarnings
    split
    · exact lacks_cons.mpr ⟨starts_append_of_areApart (by decide) _, lacks_nil⟩
    · exact lacks_nil
  rw [remarks_eq, lacks_append]
  split
  · exact ⟨lacks_nil, hdegraded⟩
  · exact ⟨forall_lacks_info _ _ (.head _), hdegraded⟩

/-! ## The whole report -/

theorem filter_tellsOutcome_charges (currency profile : String) (b : Breakdown Float) :
    (charges currency profile b).filter tellsOutcome =
      ["Matched Profile: " ++ profile ++ " (" ++ (b.model.map CostModel.name).getD "" ++ " model)",
       "Monthly Total:  " ++ Money.inCurrency currency b.monthly] ++ degradedWarnings b := by
  have hexpenses : (expenses currency b).filter tellsOutcome = [] :=
    filter_tellsOutcome_of_lacks fun s hs => forall_lacks_expenses currency b s (.tail _ hs)
  have hempty : tellsOutcome "" = false := by decide
  have hmatched (text : String) : tellsOutcome ("Matched Profile: " ++ text) = true :=
    tellsOutcome_append (by decide) text
  have htotal (text : String) : tellsOutcome ("Monthly Total:  " ++ text) = true :=
    tellsOutcome_append (by decide) text
  unfold charges
  simp only [List.filter_append, List.filter_cons, List.filter_nil, String.append_assoc, hempty,
    hmatched, htotal, filter_tellsOutcome_table, hexpenses, filter_tellsOutcome_remarks,
    Bool.false_eq_true, if_false, if_true, List.append_nil]
  rfl

/-- What the lines say that tell the outcome. If a profile prices the resource, they name the profile
and the price, and warn of items that had to be replaced; if not, the only such line is a warning. -/
theorem filter_tellsOutcome_lines (currency : String) (e : Explanation) :
    (e.lines currency).filter tellsOutcome =
      match e.breakdown.profile? with
      | some profile =>
        ["Matched Profile: " ++ profile ++ " (" ++
            (e.breakdown.model.map CostModel.name).getD "" ++ " model)",
         "Monthly Total:  " ++ Money.inCurrency currency e.breakdown.monthly] ++
          degradedWarnings e.breakdown
      | none => [warning "No published cost profile matched this resource"] := by
  have hoverview : (overview e.resource).filter tellsOutcome = [] :=
    filter_tellsOutcome_of_lacks fun s hs => forall_lacks_overview e.resource s (.tail _ hs)
  have hsubheading : (subheading "Published Profiles").filter tellsOutcome = [] :=
    filter_tellsOutcome_of_lacks fun s hs => forall_lacks_subheading s (.tail _ hs)
  have hempty : [""].filter tellsOutcome = [] := by decide
  have hnone : [warning "No published cost profile matched this resource"].filter tellsOutcome =
      [warning "No published cost profile matched this resource"] := by decide
  unfold lines
  rw [List.filter_append, List.filter_append, List.filter_append, List.filter_append, hoverview,
    hsubheading, filter_tellsOutcome_table, hempty]
  cases e.breakdown.profile? with
  | none => exact hnone
  | some profile => exact filter_tellsOutcome_charges currency profile e.breakdown

/-! ## The rows -/

theorem isPlain_natText (n : ℕ) : IsPlain (Number.natText n) := by
  intro c hc
  rw [Number.natText, String.toList_ofList] at hc
  have hdigit := Number.isDigit_of_mem_digitsOf hc
  constructor
  · rintro rfl
    cases hdigit
  · rintro rfl
    cases hdigit

theorem trim_natText (n : ℕ) : Text.trim (Number.natText n) = Number.natText n := by
  have hblank : ∀ c ∈ Number.digitsOf n, Text.isBlank c = false :=
    fun c hc => Number.isBlank_of_isDigit (Number.isDigit_of_mem_digitsOf hc)
  have htrimmed : Text.IsTrimmed (Number.digitsOf n) :=
    ⟨fun c hc => hblank c (List.mem_of_mem_head? hc),
      fun c hc => hblank c (List.mem_of_mem_getLast? hc)⟩
  rw [Text.trim, Number.natText, String.toList_ofList, htrimmed.trimChars_eq]

theorem filterMap_readRow?_candidates {candidates : List Candidate}
    (h : ∀ c ∈ candidates, IsPlain c.profile) :
    (table ["Priority", "Profile", "Outcome"] (candidates.map Candidate.row)).filterMap readRow? =
      if candidates = [] then [] else
        ["Priority", "Profile", "Outcome"] :: candidates.map fun c =>
          [Number.natText c.priority, Text.trim c.profile, c.outcome.name] := by
  have hname (o : Outcome) : IsPlain o.name ∧ Text.trim o.name = o.name := by
    cases o <;> decide
  have hheader : (∀ cell ∈ ["Priority", "Profile", "Outcome"], IsPlain cell) ∧
      ["Priority", "Profile", "Outcome"].map Text.trim = ["Priority", "Profile", "Outcome"] := by
    decide
  have hrow (c : Candidate) : c.row.map Text.trim =
      [Number.natText c.priority, Text.trim c.profile, c.outcome.name] := by
    rw [Candidate.row, List.map_cons, List.map_cons, List.map_cons, List.map_nil, trim_natText,
      (hname c.outcome).2]
  have hrows : ∀ row ∈ candidates.map Candidate.row,
      row.length = 3 ∧ ∀ cell ∈ row, IsPlain cell := by
    intro row hmem
    obtain ⟨c, hc, rfl⟩ := List.mem_map.mp hmem
    refine ⟨rfl, ?_⟩
    unfold Candidate.row
    simp only [List.forall_mem_cons]
    exact ⟨isPlain_natText _, h c hc, (hname c.outcome).1, List.forall_mem_nil _⟩
  have hread : (candidates.map Candidate.row).map (List.map Text.trim) = candidates.map fun c =>
      [Number.natText c.priority, Text.trim c.profile, c.outcome.name] := by
    rw [List.map_map]
    exact List.map_congr_left fun c _ => hrow c
  rw [filterMap_readRow?_table (List.cons_ne_nil _ _) hheader.1 hrows, List.map_cons, hheader.2, hread]
  simp only [List.map_eq_nil_iff]

theorem filterMap_readRow?_items {currency : String} {items : List (LineItem Float)}
    (h : ∀ i ∈ items, ∀ cell ∈ itemRow currency i, IsPlain cell) :
    (table ["Component", "Type", "Category", "Cost", "Calculation"]
        (items.map (itemRow currency))).filterMap readRow? =
      if items = [] then [] else
        ["Component", "Type", "Category", "Cost", "Calculation"] ::
          items.map fun i => (itemRow currency i).map Text.trim := by
  have hheader : (∀ cell ∈ ["Component", "Type", "Category", "Cost", "Calculation"], IsPlain cell) ∧
      ["Component", "Type", "Category", "Cost", "Calculation"].map Text.trim =
        ["Component", "Type", "Category", "Cost", "Calculation"] := by
    decide
  have hrows : ∀ row ∈ items.map (itemRow currency),
      row.length = 5 ∧ ∀ cell ∈ row, IsPlain cell := by
    intro row hmem
    obtain ⟨i, hi, rfl⟩ := List.mem_map.mp hmem
    exact ⟨rfl, h i hi⟩
  rw [filterMap_readRow?_table (List.cons_ne_nil _ _) hheader.1 hrows, List.map_cons, hheader.2,
    List.map_map]
  simp only [List.map_eq_nil_iff]
  rfl

/-- The rows of both tables are read back, blanks around the cells aside, if the texts in them are plain:
every candidate in its turn with its outcome, and every item with its amount. -/
theorem filterMap_readRow?_lines (currency : String) (e : Explanation)
    (hcandidates : ∀ c ∈ e.candidates, IsPlain c.profile)
    (hitems : ∀ i ∈ e.breakdown.items, ∀ cell ∈ itemRow currency i, IsPlain cell) :
    (e.lines currency).filterMap readRow? =
      (if e.candidates = [] then [] else
        ["Priority", "Profile", "Outcome"] :: e.candidates.map fun c =>
          [Number.natText c.priority, Text.trim c.profile, c.outcome.name]) ++
      if e.breakdown.profile? = none ∨ e.breakdown.items = [] then [] else
        ["Component", "Type", "Category", "Cost", "Calculation"] ::
          e.breakdown.items.map fun i => (itemRow currency i).map Text.trim := by
  have hoverview : (overview e.resource).filterMap readRow? = [] :=
    (forall_lacks_overview e.resource _ (.head _)).filterMap_readRow?
  have hsubheading : (subheading "Published Profiles").filterMap readRow? = [] :=
    (forall_lacks_subheading _ (.head _)).filterMap_readRow?
  have hempty : [""].filterMap readRow? = [] := by decide
  unfold lines
  rw [List.filterMap_append, List.filterMap_append, List.filterMap_append, List.filterMap_append,
    hoverview, hsubheading, hempty, filterMap_readRow?_candidates hcandidates, List.nil_append,
    List.nil_append, List.append_nil]
  congr 1
  cases e.breakdown.profile? with
  | none =>
    have hnone : [warning "No published cost profile matched this resource"].filterMap readRow? =
        [] := by decide
    rw [if_pos (.inl rfl)]
    exact hnone
  | some profile =>
    have hmatched (text : String) : readRow? ("Matched Profile: " ++ text) = none :=
      readRow?_eq_none (starts_append_of_areApart (by decide) text)
    have htotal (text : String) : readRow? ("Monthly Total:  " ++ text) = none :=
      readRow?_eq_none (starts_append_of_areApart (by decide) text)
    have hblank : readRow? "" = none := by decide
    have hexpenses : (expenses currency e.breakdown).filterMap readRow? = [] :=
      (forall_lacks_expenses currency e.breakdown _ (.head _)).filterMap_readRow?
    have hremarks : (remarks currency e.breakdown).filterMap readRow? = [] :=
      (lacks_remarks currency e.breakdown).filterMap_readRow?
    dsimp only
    unfold charges
    simp only [List.filterMap_append, List.filterMap_cons, List.filterMap_nil, String.append_assoc,
      hmatched, htotal, hblank, hexpenses, hremarks, filterMap_readRow?_items hitems,
      List.append_nil, List.nil_append, reduceCtorEq, false_or]

end Chargeback.Report.Explanation
