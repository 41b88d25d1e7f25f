import TrialSeries.Proofs.RowlessRuns
import TrialSeries.Proofs.TextLines
import TrialSeries.Proofs.TrialOrder

/-!
# The lines of a report

A report that can be written is made of parts, each of them a heading and the lines behind it. The
lines of the results are those of the tables of the successful runs, trial by trial. If no text of
the runs has a line feed, neither has a line of the report.
-/

namespace TrialSeries

/-- No text of a series has a line feed. -/
structure Series.IsPlain (series : Series) : Prop where
  label (text : String) : .label text ∈ series.settings → Text.IsOneLine text
  name (name : String) : name ∈ series.metrics.keys → Text.IsOneLine name

/-- No text of a result has a line feed. -/
structure RunResult.IsPlain (result : RunResult) : Prop where
  trial : Text.IsOneLine result.trial
  run : Text.IsOneLine result.run
  error (error : String) : result.error = some error → Text.IsOneLine error
  series (series : Series) : result.series = some series → series.IsPlain

namespace Report.Markdown

/-! ## Results as lists of lines -/

/-- The lines of a table that can be written. -/
def tableText (precision : Nat) (series : Series) : List String :=
  match tableLines precision series with
  | .ok lines => lines
  | .error _ => []

/-- The heading and the table of a successful run. -/
def runText (precision : Nat) (result : RunResult) : List String :=
  match result.series with
  | none => []
  | some series => runHeading result :: "" :: tableText precision series

/-- The lines behind the heading of a trial. -/
def trialText (precision : Nat) (results : List RunResult) : List String :=
  "" :: results.flatMap (runText precision)

/-- The lines of the results behind their heading. -/
def resultsText (precision : Nat) (runs : List RunResult) : List String :=
  "" :: if runs.any (·.isSuccess) then
    (trialsOf (runs.filter (·.isSuccess))).flatMap fun trial ↦
      ("### " ++ trial) ::
        trialText precision ((reportOrder runs).filter (·.trial = trial))
  else ["No run file was aggregated successfully.", ""]

section Results

variable {precision : Nat} {lines : List String}

theorem runText_eq_of_runLines {result : RunResult} (h : runLines precision result = .ok lines) :
    runText precision result = lines := by
  unfold runLines at h
  unfold runText
  cases hseries : result.series with
  | none =>
    rw [hseries] at h
    exact Except.ok.inj h
  | some series =>
    simp only [hseries, bind_eq_ok_iff] at h
    obtain ⟨table, htable, h⟩ := h
    simp only [tableText, htable]
    exact Except.ok.inj h

theorem eq_of_trialLines {trial : String} {results : List RunResult}
    (h : trialLines precision trial results = .ok lines) :
    (if results.any (·.isSuccess) then ("### " ++ trial) :: trialText precision results else []) =
      lines := by
  unfold trialLines at h
  split at h
  · rename_i hany
    simp only [bind_eq_ok_iff] at h
    obtain ⟨tables, htables, h⟩ := h
    have hmap := map_eq_of_mapM_eq_ok htables fun _ _ ↦ runText_eq_of_runLines
    rw [if_pos hany, trialText, List.flatMap_def, hmap]
    exact Except.ok.inj h
  · rename_i hany
    rw [if_neg hany]
    exact Except.ok.inj h

/-- A trial without a successful run has no lines. -/
theorem flatMap_ite_eq_flatMap_filter {α β : Type} (items : List α) (test : α → Bool)
    (f : α → List β) :
    (items.flatMap fun item ↦ if test item then f item else []) =
      (items.filter test).flatMap f := by
  induction items with
  | nil => rfl
  | cons item items ih =>
    rw [List.flatMap_cons, ih]
    cases htest : test item <;> simp [htest]

theorem eq_of_resultsLines {runs : List RunResult}
    (h : resultsLines precision runs = .ok lines) :
    "## Results" :: resultsText precision runs = lines := by
  unfold resultsLines at h
  unfold resultsText
  split at h
  · rename_i hany
    simp only [bind_eq_ok_iff] at h
    obtain ⟨trials, htrials, h⟩ := h
    have hmap := map_eq_of_mapM_eq_ok htrials fun _ _ ↦ eq_of_trialLines
    rw [if_pos hany, ← filter_trialsOf, ← flatMap_ite_eq_flatMap_filter]
    rw [entries_groupByTrial, List.map_map] at hmap
    rw [List.flatMap_def]
    simp only [Function.comp_def] at hmap
    rw [hmap]
    exact Except.ok.inj h
  · rename_i hany
    rw [if_neg hany]
    exact Except.ok.inj h

end Results

/-! ## Parts -/

/-- The lines of the failed runs behind their heading. -/
def failuresText (runs : List RunResult) : List String :=
  "" :: (runs.filter fun run ↦ !run.isSuccess).map failureLine ++ [""]

/-- The failed runs are listed. -/
def listsFailures (options : ReportOptions) (runs : List RunResult) : Bool :=
  options.includeFailed && runs.any fun run ↦ !run.isSuccess

/-- The titles of a report, each with the lines behind it. What is left of a text behind its last
line feed counts as a line. -/
def parts (options : ReportOptions) (report : Report) : List (String × List String) :=
  [("Metadata", (metadataLines report.metadata).tail),
   ("Table of Contents", (contentsLines report.runs).tail),
   ("Summary", (summaryLines report.runs).tail)] ++
  if listsFailures options report.runs then
    [("Results", resultsText options.precision report.runs),
     ("Failed Runs", failuresText report.runs ++ footerLines ++ [""])]
  else [("Results", resultsText options.precision report.runs ++ footerLines ++ [""])]

theorem failureLines_eq (runs : List RunResult) :
    failureLines runs =
      if runs.any fun run ↦ !run.isSuccess then "## Failed Runs" :: failuresText runs else [] := by
  unfold failureLines
  dsimp only
  have hany : (runs.any fun run ↦ !run.isSuccess) = true ↔
      ¬ (runs.filter fun run ↦ !run.isSuccess) = [] := by
    simp [List.filter_eq_nil_iff]
  by_cases hnone : (runs.filter fun run ↦ !run.isSuccess) = []
  · rw [if_pos hnone, if_neg (fun h ↦ hany.1 h hnone)]
  · rw [if_neg hnone, if_pos (hany.2 hnone)]
    rfl

theorem lines_append_eq_parts {options : ReportOptions} {report : Report} {lines : List String}
    (h : Markdown.lines options report = .ok lines) :
    lines ++ [""] = ["# Trialstats Report", ""] ++
      (parts options report).flatMap fun part ↦ ("## " ++ part.1) :: part.2 := by
  unfold Markdown.lines at h
  simp only [bind_eq_ok_iff] at h
  obtain ⟨results, hresults, h⟩ := h
  have heq := Except.ok.inj h
  rw [← heq, ← eq_of_resultsLines hresults, failureLines_eq, parts]
  have hmetadata : metadataLines report.metadata =
      "## Metadata" :: (metadataLines report.metadata).tail := rfl
  have hcontents : contentsLines report.runs =
      "## Table of Contents" :: (contentsLines report.runs).tail := rfl
  have hsummary : summaryLines report.runs = "## Summary" :: (summaryLines report.runs).tail := rfl
  rw [hmetadata, hcontents, hsummary]
  cases hfailed : report.runs.any fun run ↦ !run.isSuccess <;>
    cases hinclude : options.includeFailed <;>
    simp [listsFailures, hfailed, hinclude]

/-! ## One line after the other -/

section OneLine

variable {precision : Nat}

theorem isOneLine_anchor {trial run : String} (htrial : Text.IsOneLine trial)
    (hrun : Text.IsOneLine run) : Text.IsOneLine (anchor trial run) := by
  apply Text.isOneLine_lower
  rw [Text.isOneLine_ofList, List.mem_map]
  rintro ⟨char, hchar, hdash⟩
  have hname : Text.IsOneLine (trial ++ "-" ++ run) := by
    simp +decide [htrial, hrun]
  unfold separatorsToDashes at hdash
  split at hdash
  · exact absurd hdash (by decide)
  · exact hname (hdash ▸ hchar)

theorem isOneLine_cellText (mean deviation : Binary64) (count : Nat) :
    Text.IsOneLine (cellText precision mean deviation count) := by
  have hnumber (value : Binary64) : Text.IsOneLine (numberText precision value) := by
    unfold numberText
    split
    · decide
    · exact Binary64.isOneLine_fixed _ _
  simp +decide [cellText, hnumber]

theorem isOneLine_of_isCell {place : Nat} {statistics : Statistics} {text : String}
    (h : IsCell precision place statistics text) : Text.IsOneLine text := by
  cases h with
  | counted => exact isOneLine_cellText _ _ _
  | uncounted => exact isOneLine_cellText _ _ _

theorem isOneLine_of_isRow {series : Series} {place : Nat} {setting : Setting} {row : String}
    (hplain : series.IsPlain) (hmem : setting ∈ series.settings)
    (h : IsRow precision series place setting row) : Text.IsOneLine row := by
  obtain ⟨blocks, cells, -, hcells, rfl⟩ := h
  have hsetting : Text.IsOneLine setting.display := by
    cases setting with
    | number value => exact Binary64.isOneLine_display value
    | label text => exact hplain.label text hmem
  have hjoin : ∀ text ∈ cells, Text.IsOneLine text := by
    intro text htext
    obtain ⟨statistics, -, hcell⟩ := exists_mem_of_forall₂_right hcells htext
    exact isOneLine_of_isCell hcell
  simpa +decide [hsetting] using hjoin

theorem isOneLine_of_mem_tableLines {series : Series} (hplain : series.IsPlain)
    {lines : List String} (h : tableLines precision series = .ok lines) {line : String}
    (hline : line ∈ lines) : Text.IsOneLine line := by
  cases hempty : series.isEmpty with
  | true =>
    rw [tableLines_of_isEmpty hempty, Except.ok.injEq] at h
    subst h
    rcases List.mem_pair.1 hline with rfl | rfl <;> decide
  | false =>
    obtain ⟨rows, hrows, rfl⟩ := isTable_of_tableLines hempty h
    simp only [List.mem_append, List.mem_cons, List.not_mem_nil, or_false] at hline
    rcases hline with ((hnote | rfl | rfl) | hrow) | rfl
    · rw [truncationNote] at hnote
      split at hnote
      · cases hnote
      · rcases List.mem_pair.1 hnote with rfl | rfl <;> simp +decide
    · simp +decide [headerRow]
      exact hplain.name
    · simp +decide [delimiterRow]
    · obtain ⟨⟨setting, place⟩, hmem, hisRow⟩ := exists_mem_of_forall₂_right hrows hrow
      exact isOneLine_of_isRow hplain (List.fst_mem_of_mem_zipIdx hmem) hisRow
    · decide

theorem isOneLine_of_mem_runText {result : RunResult} (hplain : result.IsPlain) {line : String}
    (h : line ∈ runText precision result) : Text.IsOneLine line := by
  unfold runText at h
  split at h
  · cases h
  · rename_i series hseries
    simp only [List.mem_cons] at h
    rcases h with rfl | rfl | htable
    · have hanchor := isOneLine_anchor hplain.trial hplain.run
      simp +decide [runHeading, hplain.run, hanchor]
    · decide
    · unfold tableText at htable
      split at htable
      · rename_i lines hlines
        exact isOneLine_of_mem_tableLines (hplain.series series hseries) hlines htable
      · cases htable

variable {runs : List RunResult} {line : String}

theorem isOneLine_of_mem_trialsOf (hplain : ∀ run ∈ runs, run.IsPlain) {trial : String}
    (h : trial ∈ trialsOf runs) : Text.IsOneLine trial := by
  obtain ⟨run, hrun, rfl⟩ := mem_trialsOf.1 h
  exact (hplain run hrun).trial

theorem isPlain_of_mem_reportOrder (hplain : ∀ run ∈ runs, run.IsPlain) {trial : String}
    {run : RunResult} (h : run ∈ (reportOrder runs).filter (·.trial = trial)) : run.IsPlain :=
  hplain run ((perm_reportOrder runs).subset (List.mem_of_mem_filter h))

theorem isOneLine_of_mem_resultsText (hplain : ∀ run ∈ runs, run.IsPlain)
    (h : line ∈ resultsText precision runs) : Text.IsOneLine line := by
  rw [resultsText, List.mem_cons] at h
  rcases h with rfl | h
  · decide
  · split at h
    · obtain ⟨trial, htrial, h⟩ := List.mem_flatMap.1 h
      simp only [trialText, List.mem_cons, List.mem_flatMap] at h
      rcases h with rfl | rfl | ⟨run, hrun, h⟩
      · have hsuccess : ∀ run ∈ runs.filter (·.isSuccess), run.IsPlain := fun run hrun ↦
          hplain run (List.mem_of_mem_filter hrun)
        simpa +decide using isOneLine_of_mem_trialsOf hsuccess htrial
      · decide
      · exact isOneLine_of_mem_runText (isPlain_of_mem_reportOrder hplain hrun) h
    · rcases List.mem_pair.1 h with rfl | rfl <;> decide

theorem isOneLine_of_mem_contentsLines (hplain : ∀ run ∈ runs, run.IsPlain)
    (h : line ∈ contentsLines runs) : Text.IsOneLine line := by
  rw [contentsLines, entries_groupByTrial] at h
  simp only [List.mem_append, List.mem_cons, List.not_mem_nil, or_false, List.mem_flatMap,
    List.mem_map] at h
  rcases h with ((rfl | rfl | rfl | rfl | rfl) | ⟨entry, ⟨trial, htrial, rfl⟩, h⟩) | rfl
  any_goals decide
  rw [contentsOfTrial, List.mem_cons] at h
  rcases h with rfl | h
  · simpa +decide using isOneLine_of_mem_trialsOf hplain htrial
  · obtain ⟨run, hrun, rfl⟩ := List.mem_map.1 h
    have hrunPlain := isPlain_of_mem_reportOrder hplain (List.mem_of_mem_filter hrun)
    have hanchor := isOneLine_anchor hrunPlain.trial hrunPlain.run
    simp +decide [contentsEntry, hrunPlain.run, hanchor]

theorem isOneLine_summaryRow {trial : String} (htrial : Text.IsOneLine trial) {run : RunResult}
    (hplain : run.IsPlain) : Text.IsOneLine (summaryRow trial run) := by
  unfold summaryRow
  split <;> simp +decide [htrial, hplain.run]

theorem isOneLine_of_mem_summaryLines (hplain : ∀ run ∈ runs, run.IsPlain)
    (h : line ∈ summaryLines runs) : Text.IsOneLine line := by
  rw [summaryLines, entries_groupByTrial] at h
  simp only [List.mem_append, List.mem_cons, List.not_mem_nil, or_false, List.mem_flatMap,
    List.mem_map] at h
  rcases h with ((rfl | rfl | rfl | rfl) | ⟨entry, ⟨trial, htrial, rfl⟩, h⟩) | rfl
  any_goals decide
  obtain ⟨run, hrun, rfl⟩ := h
  exact isOneLine_summaryRow (isOneLine_of_mem_trialsOf hplain htrial)
    (isPlain_of_mem_reportOrder hplain hrun)

theorem isOneLine_of_mem_failuresText (hplain : ∀ run ∈ runs, run.IsPlain)
    (h : line ∈ failuresText runs) : Text.IsOneLine line := by
  simp only [failuresText, List.cons_append, List.mem_append, List.mem_cons, List.not_mem_nil,
    or_false, List.mem_map] at h
  rcases h with rfl | ⟨run, hrun, rfl⟩ | rfl
  any_goals decide
  have hrunPlain := hplain run (List.mem_of_mem_filter hrun)
  have herror : Text.IsOneLine (run.error.getD "unknown error") := by
    cases herror : run.error with
    | none => decide
    | some error => exact hrunPlain.error error herror
  simp +decide [failureLine, hrunPlain.trial, hrunPlain.run, herror]

theorem isOneLine_of_mem_metadataLines {metadata : ReportMetadata}
    (hversion : Text.IsOneLine metadata.version) (h : line ∈ metadataLines metadata) :
    Text.IsOneLine line := by
  simp only [metadataLines, List.mem_append, List.mem_cons, List.not_mem_nil, or_false] at h
  rcases h with ((rfl | rfl | rfl | rfl | rfl) | h) | rfl | rfl
  any_goals simp +decide [hversion]
  split at h
  · cases h
  · obtain rfl := List.mem_singleton.1 h
    simp +decide

theorem isOneLine_of_mem_lines {options : ReportOptions} {report : Report} {lines : List String}
    (hversion : Text.IsOneLine report.metadata.version)
    (hplain : ∀ run ∈ report.runs, run.IsPlain)
    (h : Markdown.lines options report = .ok lines) (hline : line ∈ lines) :
    Text.IsOneLine line := by
  unfold Markdown.lines at h
  simp only [bind_eq_ok_iff] at h
  obtain ⟨results, hresults, h⟩ := h
  rw [← Except.ok.inj h, ← eq_of_resultsLines hresults] at hline
  simp only [List.mem_append, List.mem_cons, List.not_mem_nil, or_false] at hline
  rcases hline with ((((((rfl | rfl) | hmetadata) | hcontents) | hsummary) | rfl | hresult) |
    hfailure) | hfooter
  any_goals decide
  · exact isOneLine_of_mem_metadataLines hversion hmetadata
  · exact isOneLine_of_mem_contentsLines hplain hcontents
  · exact isOneLine_of_mem_summaryLines hplain hsummary
  · exact isOneLine_of_mem_resultsText hplain hresult
  · split at hfailure
    · rw [failureLines_eq] at hfailure
      split at hfailure
      · rcases List.mem_cons.1 hfailure with rfl | hfailure
        · decide
        · exact isOneLine_of_mem_failuresText hplain hfailure
      · cases hfailure
    · cases hfailure
  · have hall : ∀ line ∈ footerLines, Text.IsOneLine line := by decide
    exact hall line hfooter

end OneLine

end Report.Markdown

end TrialSeries
