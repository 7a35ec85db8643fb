import Chargeback.Json.Reader
import Chargeback.Proofs.Numerals
import Chargeback.Proofs.TextMaps
import Chargeback.Telemetry.Counters

/-!
# The text of the counters is read back

Whoever collects counters reads them line by line. A line that begins with a number sign is a comment;
every other one is a sample: the name of a metric, the label of the profile in braces if the metric has
one, and behind a blank the count. The reader here follows this form and knows nothing of how the lines
are made. From the lines of the counters it takes one sample for each number that they hold, and no
other, so that a name and a label always lead to the number that was counted for them.
-/

namespace Chargeback.Counters

open Number

/-! ## Reading samples -/

/-- What a line says about a metric, or about one profile if the metric has a count for each. -/
structure Sample where
  metric : String
  profile : Option String
  count : ℕ
deriving DecidableEq

/-- Reads the value of a label up to the quote that ends it. Behind a backslash an `n` stands for a line
end, and every other character for itself. -/
def readLabel? : List Char → Option (List Char × List Char)
  | [] => none
  | '"' :: rest => some ([], rest)
  | ['\\'] => none
  | '\\' :: c :: rest =>
    (readLabel? rest).map fun (value, behind) => ((if c = 'n' then '\n' else c) :: value, behind)
  | c :: rest => (readLabel? rest).map fun (value, behind) => (c :: value, behind)

/-- Reads a blank and a count, with nothing behind it. -/
def readCount? : List Char → Option ℕ
  | ' ' :: digits =>
    if digits ≠ [] ∧ digits.all Char.isDigit then some (natOfDigits 0 digits) else none
  | _ => none

/-- Reads what follows the name of a metric. -/
def readTail? (s : List Char) : Option (Option String × ℕ) :=
  match Json.strip? "\x7bprofile=\"".toList s with
  | none => (readCount? s).map (none, ·)
  | some label =>
    match readLabel? label with
    | some (profile, '\x7d' :: rest) => (readCount? rest).map (some (String.ofList profile), ·)
    | _ => none

/-- Whether a character can stand in the name of a metric: all can but the two that end it. -/
def inName (c : Char) : Bool := c ≠ '\x7b' && c ≠ ' '

/-- Reads a line. A comment is no sample. -/
def readSample? (line : String) : Option Sample :=
  if line.toList.head? = some '#' then none
  else
    (readTail? (line.toList.dropWhile inName)).map fun (profile, count) =>
      ⟨String.ofList (line.toList.takeWhile inName), profile, count⟩

/-- The count of a sample, if the sample is about this metric and this label. -/
def Sample.countOf (metric : String) (profile : Option String) (s : Sample) : Option ℕ :=
  if s.metric = metric ∧ s.profile = profile then some s.count else none

/-- All counts that some lines report for a metric, under a label or without one. -/
def reported (lines : List String) (metric : String) (profile : Option String) : List ℕ :=
  (lines.filterMap readSample?).filterMap (Sample.countOf metric profile)

/-! ## Labels and counts -/

/-- The text of a label is read back up to its closing quote, whatever follows. -/
theorem readLabel?_labelText (s : String) (rest : List Char) :
    readLabel? ((labelText s).toList ++ '"' :: rest) = some (s.toList, rest) := by
  rw [labelText, String.toList_ofList]
  induction s.toList with
  | nil => rfl
  | cons c chars ih =>
    rw [List.flatMap_cons]
    by_cases hslash : c = '\\'
    · subst hslash
      simp [readLabel?, ih]
    · by_cases hquote : c = '"'
      · subst hquote
        simp [readLabel?, ih]
      · by_cases hline : c = '\n'
        · subst hline
          simp [readLabel?, ih]
        · simp [readLabel?, hslash, hquote, hline, ih]

theorem readCount?_sample (count : ℕ) : readCount? (sample count).toList = some count := by
  have hdigits : (digitsOf count).all Char.isDigit = true :=
    List.all_eq_true.mpr fun _ => isDigit_of_mem_digitsOf
  have htext : (sample count).toList = ' ' :: digitsOf count := by
    rw [sample, natText, String.toList_append, String.toList_ofList, String.toList_ofList]
    rfl
  rw [htext, readCount?, if_pos ⟨digitsOf_ne_nil count, hdigits⟩, natOfDigits_digitsOf]

/-! ## Lines -/

theorem strip?_append (part rest : List Char) : Json.strip? part (part ++ rest) = some rest := by
  induction part with
  | nil => rfl
  | cons c part ih =>
    rw [List.cons_append, Json.strip?, if_pos rfl, ih]

theorem readTail?_sample (count : ℕ) : readTail? (sample count).toList = some (none, count) := by
  have hcount := readCount?_sample count
  have hstrip : Json.strip? "\x7bprofile=\"".toList (sample count).toList = none := by
    rw [sample, String.toList_append]
    rfl
  rw [readTail?, hstrip]
  simp only [hcount]
  rfl

theorem readTail?_profile (name : String) (count : ℕ) :
    readTail? ("\x7bprofile=\"" ++ labelText name ++ "\"\x7d" ++ sample count).toList =
      some (some name, count) := by
  have htext : ("\x7bprofile=\"" ++ labelText name ++ "\"\x7d" ++ sample count).toList =
      "\x7bprofile=\"".toList ++ ((labelText name).toList ++ '"' :: '\x7d' :: (sample count).toList) := by
    simp only [String.toList_append, List.append_assoc]
    rfl
  rw [htext, readTail?, strip?_append]
  simp only [readLabel?_labelText, readCount?_sample, Option.map_some, String.ofList_toList]

/-- What can be the name of a metric here. -/
structure IsMetric (metric : String) : Prop where
  nonempty : metric.toList ≠ []
  named : metric.toList.all inName = true
  plain : metric.toList.head? ≠ some '#'

/-- The name of a metric ends where a label or a blank begins. -/
theorem readSample?_append {metric tail : String} (hmetric : IsMetric metric)
    (htail : ∀ c ∈ tail.toList.head?, inName c = false) :
    readSample? (metric ++ tail) =
      (readTail? tail.toList).map fun (profile, count) => ⟨metric, profile, count⟩ := by
  have hends : tail.toList.takeWhile inName = [] ∧ tail.toList.dropWhile inName = tail.toList := by
    cases h : tail.toList with
    | nil => exact ⟨rfl, rfl⟩
    | cons c rest =>
      have hc : inName c = false := htail c (by rw [h]; rfl)
      exact ⟨List.takeWhile_cons_of_neg (by simp [hc]), List.dropWhile_cons_of_neg (by simp [hc])⟩
  have hnamed : ∀ c ∈ metric.toList, inName c = true := List.all_eq_true.mp hmetric.named
  have hhead : (metric ++ tail).toList.head? ≠ some '#' := by
    rw [String.toList_append, List.head?_append_of_ne_nil _ hmetric.nonempty]
    exact hmetric.plain
  rw [readSample?, if_neg hhead, String.toList_append, List.takeWhile_append_of_pos hnamed,
    List.dropWhile_append_of_pos hnamed, hends.1, hends.2, List.append_nil,
    String.ofList_toList]

/-- The comments of a metric are passed over. -/
theorem filterMap_family (metric meaning : String) (samples : List String) :
    (family metric meaning samples).filterMap readSample? =
      samples.filterMap fun tail => readSample? (metric ++ tail) := by
  have hcomment (text : String) : readSample? ("# " ++ text) = none := by
    rw [readSample?, if_pos]
    rw [String.toList_append]
    rfl
  have hhelp : readSample? ("# HELP " ++ metric ++ " " ++ meaning) = none := by
    have hline : "# HELP " ++ metric ++ " " ++ meaning = "# " ++ ("HELP " ++ metric ++ " " ++ meaning) := by
      simp only [← String.append_assoc]
      rfl
    rw [hline, hcomment]
  have htype : readSample? ("# TYPE " ++ metric ++ " counter") = none := by
    have hline : "# TYPE " ++ metric ++ " counter" = "# " ++ ("TYPE " ++ metric ++ " counter") := by
      simp only [← String.append_assoc]
      rfl
    rw [hline, hcomment]
  rw [family, List.filterMap_cons_none hhelp, List.filterMap_cons_none htype, List.filterMap_map]
  rfl

/-- A metric without a label has one sample. -/
theorem filterMap_family_sample {metric : String} (hmetric : IsMetric metric) (meaning : String)
    (count : ℕ) :
    (family metric meaning [sample count]).filterMap readSample? = [⟨metric, none, count⟩] := by
  have htail : ∀ c ∈ (sample count).toList.head?, inName c = false := by
    intro c hc
    rw [sample, String.toList_append] at hc
    cases hc
    rfl
  have hsample : readSample? (metric ++ sample count) = some ⟨metric, none, count⟩ := by
    rw [readSample?_append hmetric htail, readTail?_sample]
    rfl
  rw [filterMap_family, List.filterMap_cons, hsample]
  rfl

/-- The counter of the profiles has one sample for each of its entries. -/
theorem filterMap_profileFamily (matched : TextMap ℕ) :
    (profileFamily matched).filterMap readSample? =
      matched.entries.map fun e => ⟨"vmcost_profile_matches_total", some e.1, e.2⟩ := by
  have hmetric : IsMetric "vmcost_profile_matches_total" := ⟨by simp, by decide, by simp⟩
  have heach (name : String) (count : ℕ) :
      readSample? ("vmcost_profile_matches_total" ++
        ("\x7bprofile=\"" ++ labelText name ++ "\"\x7d" ++ sample count)) =
      some ⟨"vmcost_profile_matches_total", some name, count⟩ := by
    rw [readSample?_append hmetric, readTail?_profile]
    · rfl
    · intro c hc
      rw [String.append_assoc, String.append_assoc, String.toList_append] at hc
      cases hc
      rfl
  have hsamples : ((profileSamples matched).filterMap fun tail =>
      readSample? ("vmcost_profile_matches_total" ++ tail)) =
        matched.entries.map fun e => ⟨"vmcost_profile_matches_total", some e.1, e.2⟩ := by
    rw [profileSamples, List.filterMap_map, ← List.filterMap_eq_map]
    refine List.filterMap_congr ?_
    rintro ⟨name, count⟩ -
    simp only [Function.comp_apply, heach]
  rw [profileFamily]
  cases hentries : profileSamples matched with
  | nil =>
    rw [hentries] at hsamples
    exact hsamples
  | cons first others =>
    rw [hentries] at hsamples
    simp only [filterMap_family, hsamples]

/-! ## All counters -/

/-- The lines of the counters hold these samples and no others. -/
theorem filterMap_lines (c : Counters) :
    c.lines.filterMap readSample? =
      [⟨"vmcost_degraded_line_items_total", none, c.degraded⟩] ++
        (c.matched.entries.map fun e => ⟨"vmcost_profile_matches_total", some e.1, e.2⟩) ++
        [⟨"vmcost_resources_evaluated_total", none, c.evaluated⟩,
          ⟨"vmcost_resources_uncosted_total", none, c.uncosted⟩] := by
  have hdegraded : IsMetric "vmcost_degraded_line_items_total" :=
    ⟨by simp, by decide, by simp⟩
  have hevaluated : IsMetric "vmcost_resources_evaluated_total" :=
    ⟨by simp, by decide, by simp⟩
  have huncosted : IsMetric "vmcost_resources_uncosted_total" :=
    ⟨by simp, by decide, by simp⟩
  rw [lines, List.filterMap_append, List.filterMap_append, List.filterMap_append,
    filterMap_family_sample hdegraded, filterMap_family_sample hevaluated,
    filterMap_family_sample huncosted, filterMap_profileFamily, List.append_assoc]
  rfl

theorem Sample.countOf_self (metric : String) (profile : Option String) (count : ℕ) :
    countOf metric profile ⟨metric, profile, count⟩ = some count := if_pos ⟨rfl, rfl⟩

/-- No sample of a profile is about another metric. -/
theorem filterMap_profiles_of_ne {metric : String} (h : "vmcost_profile_matches_total" ≠ metric)
    (profile : Option String) (entries : List (String × ℕ)) :
    (entries.map fun e => (⟨"vmcost_profile_matches_total", some e.1, e.2⟩ : Sample)).filterMap
      (Sample.countOf metric profile) = [] := by
  rw [List.filterMap_map, List.filterMap_eq_nil_iff]
  exact fun e _ => if_neg fun hboth => h hboth.1

/-- Among the entries of a map, those of a key are its value, if it has one. -/
theorem filterMap_entries (m : TextMap ℕ) (name : String) :
    (m.entries.map fun e => (⟨"vmcost_profile_matches_total", some e.1, e.2⟩ : Sample)).filterMap
      (Sample.countOf "vmcost_profile_matches_total" (some name)) = (m.get? name).toList := by
  obtain ⟨entries, hsorted⟩ := m
  show _ = (entries.lookup name).toList
  induction entries with
  | nil => rfl
  | cons e rest ih =>
    obtain ⟨key, count⟩ := e
    obtain ⟨hless, hrest⟩ := List.pairwise_cons.mp hsorted
    rw [List.map_cons, List.filterMap_cons, TextMap.lookup_cons_eq_ite]
    by_cases hkey : name = key
    · subst hkey
      rw [Sample.countOf_self, if_pos rfl, ih hrest, TextMap.lookup_eq_none_of_head hsorted]
      rfl
    · have hnone : Sample.countOf "vmcost_profile_matches_total" (some name)
          ⟨"vmcost_profile_matches_total", some key, count⟩ = none :=
        if_neg fun hboth => hkey (Option.some.inj hboth.2).symm
      rw [hnone, if_neg hkey]
      exact ih hrest

section Reported

variable (c : Counters)

/-- For a metric other than that of the profiles, the samples of the profiles do not count. -/
theorem reported_of_ne {metric : String} (h : "vmcost_profile_matches_total" ≠ metric) :
    reported c.lines metric none =
      [⟨"vmcost_degraded_line_items_total", none, c.degraded⟩,
        ⟨"vmcost_resources_evaluated_total", none, c.evaluated⟩,
        ⟨"vmcost_resources_uncosted_total", none, c.uncosted⟩].filterMap
          (Sample.countOf metric none) := by
  rw [reported, filterMap_lines, List.filterMap_append, List.filterMap_append,
    filterMap_profiles_of_ne h, List.append_nil, ← List.filterMap_append]
  rfl

theorem reported_degraded : reported c.lines "vmcost_degraded_line_items_total" none = [c.degraded] :=
  (reported_of_ne c (by decide)).trans (by simp [Sample.countOf])

theorem reported_evaluated :
    reported c.lines "vmcost_resources_evaluated_total" none = [c.evaluated] :=
  (reported_of_ne c (by decide)).trans (by simp [Sample.countOf])

theorem reported_uncosted :
    reported c.lines "vmcost_resources_uncosted_total" none = [c.uncosted] :=
  (reported_of_ne c (by decide)).trans (by simp [Sample.countOf])

theorem reported_profile (name : String) :
    reported c.lines "vmcost_profile_matches_total" (some name) = (c.matched.get? name).toList := by
  rw [reported, filterMap_lines, List.filterMap_append, List.filterMap_append, filterMap_entries]
  simp [Sample.countOf]

end Reported

end Chargeback.Counters
