import TrialSeries.Processing
import TrialSeries.Proofs.MarkdownTables
import TrialSeries.Proofs.PointSeries

/-!
# Looking up the entries of a series

The tables of a report and the blocks of means look up entries at the places of the settings. The
lists of a series that comes from blocks reach all of them, so these entries are there; for any other
series the lists alone decide whether an entry is missing.
-/

namespace TrialSeries

theorem Series.IsAligned.not_endsEarly {series : Series} (h : series.IsAligned) :
    ¬ series.EndsEarly := by
  intro hshort
  rcases hshort with hblocks | ⟨statistics, hstatistics, hmean | hdeviation⟩
  · exact hblocks.ne h.blocks_length
  · exact hmean.ne (h.mean_length statistics hstatistics)
  · exact hdeviation.ne (h.deviation_length statistics hstatistics)

/-! ## Run files -/

namespace RunFile

variable {table : RuleTable} {alignment : Alignment}

theorem isAligned_of_series {file : RunFile} {content : Except FileError String} {series : Series}
    (h : file.series table alignment content = .ok series) : series.IsAligned := by
  unfold RunFile.series at h
  split at h
  · cases h
  · rw [bind_eq_ok_iff] at h
    rcases h with ⟨blocks, -, h⟩
    cases hseries : Series.ofBlocks alignment blocks with
    | error error =>
      rw [hseries] at h
      cases h
    | ok found =>
      rw [hseries] at h
      cases h
      exact Series.isAligned_ofBlocks hseries

theorem isAligned_of_result {file : RunFile} {content : Except FileError String} {series : Series}
    (h : (file.result table alignment content).series = some series) : series.IsAligned := by
  unfold RunFile.result at h
  split at h
  · rename_i found hfound
    cases h
    exact isAligned_of_series hfound
  · cases h

theorem not_endsEarly_of_mem_results {files : List RunFile}
    {contents : List (Except FileError String)} {result : RunResult}
    (h : result ∈ files.zipWith (RunFile.result table alignment) contents) :
    ¬ result.EndsEarly := by
  rw [← List.map_uncurry_zip_eq_zipWith] at h
  obtain ⟨⟨file, content⟩, -, rfl⟩ := List.mem_map.1 h
  intro hshort
  rcases hshort with ⟨series, hseries, hshort⟩
  exact (isAligned_of_result hseries).not_endsEarly hshort

/-- Only the number of places can keep a report of run files from being written. -/
theorem markdown_eq_error {files : List RunFile} {contents : List (Except FileError String)}
    {report : Report} (hruns : report.runs = files.zipWith (RunFile.result table alignment) contents)
    {options : ReportOptions} {error : RenderError} (h : report.markdown options = .error error) :
    error = .precisionOutOfRange ∧ Report.Markdown.maxPrecision < options.precision := by
  cases Report.Markdown.fault_of_markdown h with
  | missingEntry hshort =>
    rcases hshort with ⟨result, hresult, hshort⟩
    rw [hruns] at hresult
    exact absurd hshort (not_endsEarly_of_mem_results hresult)
  | precisionOutOfRange hbeyond => exact ⟨rfl, hbeyond⟩

end RunFile

/-! ## All lookups -/

/-- All lists of a series that comes from blocks have one entry for each setting, so neither its blocks
of means nor a report of run files lacks an entry. A table of any series lacks one exactly if its
blocks or some of its means or deviations end before the settings do, and the blocks of means lack
one exactly if some of its means do. -/
theorem Series.entries_within_reach :
    (∀ (alignment : Alignment) (blocks : List Block) (series : Series),
      Series.ofBlocks alignment blocks = .ok series →
        series.IsAligned ∧ ∃ means, series.toBlocks? = some means) ∧
    (∀ (table : RuleTable) (alignment : Alignment) (files : List RunFile)
        (contents : List (Except FileError String)) (report : Report) (options : ReportOptions),
      report.runs = files.zipWith (RunFile.result table alignment) contents →
        report.markdown options ≠ .error .missingEntry ∧
          (options.precision ≤ Report.Markdown.maxPrecision →
            ∃ text, report.markdown options = .ok text)) ∧
    (∀ (precision : Nat) (series : Series), precision ≤ Report.Markdown.maxPrecision →
      (∀ error, Report.Markdown.tableLines precision series = .error error ↔
        error = .missingEntry ∧ series.EndsEarly) ∧
      (∀ lines, Report.Markdown.tableLines precision series = .ok lines →
        series.isEmpty = false → Report.Markdown.IsTable precision series lines)) ∧
    (∀ series : Series, series.toBlocks? = none ↔
      ∃ statistics ∈ series.metrics.values, statistics.mean.length < series.length) := by
  refine ⟨?_, ?_, ?_, ?_⟩
  · intro alignment blocks series h
    have haligned := Series.isAligned_ofBlocks h
    exact ⟨haligned, series.meanBlocks, haligned.toBlocks?_eq⟩
  · intro table alignment files contents report options hruns
    constructor
    · intro h
      cases (RunFile.markdown_eq_error hruns h).1
    · intro hprecision
      cases hmarkdown : report.markdown options with
      | ok text => exact ⟨text, rfl⟩
      | error error =>
        exact absurd hprecision (RunFile.markdown_eq_error hruns hmarkdown).2.not_ge
  · intro precision series hprecision
    constructor
    · intro error
      exact Report.Markdown.tableLines_eq_error_iff hprecision
    · intro lines h hne
      exact Report.Markdown.isTable_of_tableLines hne h
  · intro series
    exact toBlocks?_eq_none_iff

/-- The result of a run file at two hop counts, the second of them without a value. -/
def hopCountResults : List RunResult :=
  [⟨"PART_DISC", "hopCount.csv", "PART_DISC/hopCount.csv"⟩].zipWith
    (RunFile.result .builtIn .reject) [.ok "settings: 3_5\nm: 1,2\nsettings: 4_5\nm:"]

/-- One setting, at which the count of the only metric is missing. -/
def uncountedSeries : Series :=
  ⟨[.label "a"], [1], .ofList [("m", ⟨[.zero], [.zero], []⟩)], 0⟩

theorem entries_within_reach_hopCountResults :
    (∃ series, Series.ofBlocks .reject Aggregation.labelledRun = .ok series ∧
      series.length = 2 ∧ series.IsAligned) ∧
    hopCountResults.map (·.series.map (·.blocks)) = [some [1, 1]] ∧
    (∃ text, (Report.ofRuns default .zero hopCountResults).markdown .standard = .ok text) ∧
    3 ≤ Report.Markdown.maxPrecision ∧ uncountedSeries.isEmpty = false ∧
    ∃ lines, Report.Markdown.tableLines 3 uncountedSeries = .ok lines ∧
      Report.Markdown.IsTable 3 uncountedSeries lines := by
  have hseries : Series.ofBlocks .reject Aggregation.labelledRun =
      .ok (Aggregation.collect Aggregation.labelledRun) := rfl
  have haligned := (Series.entries_within_reach.1 _ _ _ hseries).1
  have hresults : hopCountResults.map (·.series.map (·.blocks)) = [some [1, 1]] := by
    decide +kernel
  have hreport := Series.entries_within_reach.2.1 _ _ _ _
    (Report.ofRuns default .zero hopCountResults) .standard rfl
  have hprecision : 3 ≤ Report.Markdown.maxPrecision := by decide
  have hnonempty : uncountedSeries.isEmpty = false := rfl
  obtain ⟨lines, hlines⟩ :
      ∃ lines, Report.Markdown.tableLines 3 uncountedSeries = .ok lines := ⟨_, rfl⟩
  have htable := (Series.entries_within_reach.2.2.1 3 uncountedSeries hprecision).2 lines hlines
  exact ⟨⟨_, hseries, rfl, haligned⟩, hresults, hreport.2 hprecision, hprecision, hnonempty, lines,
    hlines, htable hnonempty⟩

end TrialSeries
