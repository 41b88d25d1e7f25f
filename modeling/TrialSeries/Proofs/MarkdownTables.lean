import TrialSeries.Proofs.AlignedSeries
import TrialSeries.Proofs.Sections
import TrialSeries.Proofs.TrialGroups
import TrialSeries.Report.Markdown

/-!
# Tables of series

A table shows each setting with its blocks and, for each metric, the mean, the deviation and the count
at the same place. It can be written exactly if the blocks, the means and the deviations reach all
settings; a count that is missing is shown as zero. A report cannot be written only if this fails for
one of its series, or if its numbers are to have too many places.
-/

namespace TrialSeries

/-- A list that a table needs ends before the settings do. -/
def Series.EndsEarly (series : Series) : Prop :=
  series.blocks.length < series.length ∨
    ∃ statistics ∈ series.metrics.values,
      statistics.mean.length < series.length ∨ statistics.deviation.length < series.length

/-- The series of a run ends early. -/
def RunResult.EndsEarly (result : RunResult) : Prop :=
  ∃ series, result.series = some series ∧ series.EndsEarly

namespace Report.Markdown

/-! ## What a table shows -/

def numberText (precision : Nat) (value : Binary64) : String :=
  if value.isNaN then "n/a" else value.fixed precision

def cellText (precision : Nat) (mean deviation : Binary64) (count : Nat) : String :=
  " " ++ numberText precision mean ++ " ± " ++ numberText precision deviation ++
    " (n=" ++ toString count ++ ") |"

/-- The text that stands for a metric at one place. -/
inductive IsCell (precision place : Nat) (statistics : Statistics) : String → Prop where
  | counted {mean deviation : Binary64} {count : Nat}
      (hmean : statistics.mean[place]? = some mean)
      (hdeviation : statistics.deviation[place]? = some deviation)
      (hcount : statistics.count[place]? = some count) :
      IsCell precision place statistics (cellText precision mean deviation count)
  | uncounted {mean deviation : Binary64}
      (hmean : statistics.mean[place]? = some mean)
      (hdeviation : statistics.deviation[place]? = some deviation)
      (hcount : statistics.count.length ≤ place) :
      IsCell precision place statistics (cellText precision mean deviation 0)

/-- The line of the setting at one place. -/
def IsRow (precision : Nat) (series : Series) (place : Nat) (setting : Setting) (row : String) :
    Prop :=
  ∃ blocks cells, series.blocks[place]? = some blocks ∧
    List.Forall₂ (IsCell precision place) series.metrics.values cells ∧
    row = "| " ++ setting.display ++ " | " ++ toString blocks ++ " |" ++ String.join cells

/-- The table of a series with one line for each setting. -/
def IsTable (precision : Nat) (series : Series) (lines : List String) : Prop :=
  ∃ rows,
    List.Forall₂ (fun (setting, place) row ↦ IsRow precision series place setting row)
      series.settings.zipIdx rows ∧
    lines = truncationNote series.truncated ++
      [headerRow series.metrics.keys, delimiterRow series.metrics.keys] ++ rows ++ [""]

/-! ## Why nothing is shown -/

/-- Something short lacks an entry, or there are too many places. -/
inductive Fault (precision : Nat) (short : Prop) : RenderError → Prop where
  | missingEntry (h : short) : Fault precision short .missingEntry
  | precisionOutOfRange (h : maxPrecision < precision) :
      Fault precision short .precisionOutOfRange

theorem Fault.mono {precision : Nat} {short other : Prop} {error : RenderError}
    (h : Fault precision short error) (hshort : short → other) : Fault precision other error := by
  cases h with
  | missingEntry h => exact .missingEntry (hshort h)
  | precisionOutOfRange h => exact .precisionOutOfRange h

/-! ## Entries and numbers -/

section Entries

variable {precision place : Nat}

theorem entryAt_eq_ok_iff {α : Type} {entries : List α} {entry : α} :
    entryAt entries place = .ok entry ↔ entries[place]? = some entry := by
  unfold entryAt
  cases entries[place]? <;> simp

theorem fault_of_entryAt {α : Type} {entries : List α} {error : RenderError}
    (h : entryAt entries place = .error error) :
    Fault precision (entries.length ≤ place) error := by
  unfold entryAt at h
  cases hentry : entries[place]? with
  | some entry => simp [hentry] at h
  | none =>
    obtain rfl : RenderError.missingEntry = error := by simpa [hentry] using h
    exact .missingEntry (List.getElem?_eq_none_iff.1 hentry)

theorem eq_numberText_of_cellNumber {value : Binary64} {text : String}
    (h : cellNumber precision value = .ok text) : text = numberText precision value := by
  unfold cellNumber at h
  unfold numberText
  split at h
  · rename_i hnan
    simpa [hnan, eq_comm] using h
  · rename_i hnumber
    split at h
    · cases h
    · simpa [hnumber, eq_comm] using h

theorem fault_of_cellNumber {value : Binary64} {error : RenderError} (short : Prop)
    (h : cellNumber precision value = .error error) : Fault precision short error := by
  unfold cellNumber at h
  split at h
  · cases h
  · split at h
    · rename_i hprecision
      obtain rfl : RenderError.precisionOutOfRange = error := by simpa using h
      exact .precisionOutOfRange hprecision
    · cases h

end Entries

/-! ## Cells -/

section Cells

variable {precision place : Nat} {statistics : Statistics}

theorem isCell_of_cell {text : String} (h : cell precision place statistics = .ok text) :
    IsCell precision place statistics text := by
  unfold cell at h
  simp only [bind_eq_ok_iff, entryAt_eq_ok_iff] at h
  obtain ⟨mean, hmean, meanText, hmeanText, deviation, hdeviation, deviationText, hdeviationText,
    htext⟩ := h
  rw [eq_numberText_of_cellNumber hmeanText, eq_numberText_of_cellNumber hdeviationText] at htext
  cases hcount : statistics.count[place]? with
  | some count =>
    rw [hcount] at htext
    cases htext
    exact .counted hmean hdeviation hcount
  | none =>
    rw [hcount] at htext
    cases htext
    exact .uncounted hmean hdeviation (List.getElem?_eq_none_iff.1 hcount)

theorem IsCell.place_lt {text : String} (h : IsCell precision place statistics text) :
    place < statistics.mean.length ∧ place < statistics.deviation.length := by
  cases h with
  | counted hmean hdeviation _ =>
    exact ⟨(List.getElem?_eq_some_iff.1 hmean).1, (List.getElem?_eq_some_iff.1 hdeviation).1⟩
  | uncounted hmean hdeviation _ =>
    exact ⟨(List.getElem?_eq_some_iff.1 hmean).1, (List.getElem?_eq_some_iff.1 hdeviation).1⟩

theorem fault_of_cell {error : RenderError} (h : cell precision place statistics = .error error) :
    Fault precision (statistics.mean.length ≤ place ∨ statistics.deviation.length ≤ place)
      error := by
  unfold cell at h
  simp only [bind_eq_error_iff] at h
  rcases h with h | ⟨mean, -, h | ⟨meanText, -, h | ⟨deviation, -, h | ⟨deviationText, -, h⟩⟩⟩⟩
  · exact (fault_of_entryAt h).mono .inl
  · exact fault_of_cellNumber _ h
  · exact (fault_of_entryAt h).mono .inr
  · exact fault_of_cellNumber _ h
  · cases h

end Cells

/-! ## Rows -/

section Rows

variable {precision place : Nat} {series : Series} {setting : Setting}

theorem isRow_of_tableRow {row : String}
    (h : tableRow precision series place setting = .ok row) :
    IsRow precision series place setting row := by
  unfold tableRow at h
  simp only [bind_eq_ok_iff, entryAt_eq_ok_iff, mapM_eq_ok_iff] at h
  obtain ⟨blocks, hblocks, cells, hcells, hrow⟩ := h
  cases hrow
  exact ⟨blocks, cells, hblocks, hcells.imp fun _ _ ↦ isCell_of_cell, rfl⟩

theorem fault_of_tableRow {error : RenderError} (hplace : place < series.length)
    (h : tableRow precision series place setting = .error error) :
    Fault precision series.EndsEarly error := by
  unfold tableRow at h
  simp only [bind_eq_error_iff, mapM_eq_error_iff] at h
  rcases h with h | ⟨blocks, -, ⟨_, statistics, hfirst, h⟩ | ⟨cells, -, h⟩⟩
  · apply (fault_of_entryAt h).mono
    intro hshort
    exact .inl (hshort.trans_lt hplace)
  · apply (fault_of_cell h).mono
    intro hshort
    exact .inr ⟨statistics, hfirst.mem, hshort.imp (·.trans_lt hplace) (·.trans_lt hplace)⟩
  · cases h

end Rows

/-! ## Tables -/

section Tables

variable {precision : Nat} {series : Series}

theorem isTable_of_tableLines {lines : List String} (hne : series.isEmpty = false)
    (h : tableLines precision series = .ok lines) : IsTable precision series lines := by
  rw [tableLines, hne, if_neg Bool.false_ne_true] at h
  simp only [bind_eq_ok_iff, mapM_eq_ok_iff] at h
  obtain ⟨rows, hrows, hlines⟩ := h
  cases hlines
  exact ⟨rows, hrows.imp fun _ _ ↦ isRow_of_tableRow, rfl⟩

theorem fault_of_tableLines {error : RenderError}
    (h : tableLines precision series = .error error) :
    Fault precision series.EndsEarly error := by
  unfold tableLines at h
  split at h
  · cases h
  · simp only [bind_eq_error_iff, mapM_eq_error_iff] at h
    rcases h with ⟨place, pair, hfirst, h⟩ | ⟨rows, -, h⟩
    · exact fault_of_tableRow (Series.lt_length_of_mem_zipIdx hfirst.mem) h
    · cases h

/-- In a table no list ends before the settings do. -/
theorem IsTable.not_endsEarly {lines : List String} (h : IsTable precision series lines) :
    ¬ series.EndsEarly := by
  obtain ⟨rows, hrows, -⟩ := h
  have hrow (place : Nat) (hplace : place < series.length) :
      place < series.blocks.length ∧
        ∀ statistics ∈ series.metrics.values,
          place < statistics.mean.length ∧ place < statistics.deviation.length := by
    have hmem : (series.settings[place], place) ∈ series.settings.zipIdx :=
      List.mem_zipIdx_iff_getElem?.2 (List.getElem?_eq_getElem hplace)
    obtain ⟨row, -, blocks, cells, hblocks, hcells, -⟩ := exists_mem_of_forall₂_left hrows hmem
    refine ⟨(List.getElem?_eq_some_iff.1 hblocks).1, ?_⟩
    intro statistics hstatistics
    obtain ⟨text, -, htext⟩ := exists_mem_of_forall₂_left hcells hstatistics
    exact htext.place_lt
  -- A list that ends early has no entry at the place that its own length gives.
  intro hshort
  rcases hshort with hblocks | ⟨statistics, hstatistics, hmean | hdeviation⟩
  · exact lt_irrefl _ (hrow _ hblocks).1
  · exact lt_irrefl _ ((hrow _ hmean).2 statistics hstatistics).1
  · exact lt_irrefl _ ((hrow _ hdeviation).2 statistics hstatistics).2

theorem not_endsEarly_of_tableLines {lines : List String}
    (h : tableLines precision series = .ok lines) : ¬ series.EndsEarly := by
  cases hempty : series.isEmpty with
  | false => exact (isTable_of_tableLines hempty h).not_endsEarly
  | true =>
    have hlength : series.length = 0 := by
      simpa [Series.isEmpty, Series.length] using hempty
    simp [Series.EndsEarly, hlength]

/-- With few enough places it depends on the lengths alone whether there is a table. -/
theorem tableLines_eq_error_iff (hprecision : precision ≤ maxPrecision) {error : RenderError} :
    tableLines precision series = .error error ↔ error = .missingEntry ∧ series.EndsEarly := by
  constructor
  · intro h
    cases fault_of_tableLines h with
    | missingEntry hshort => exact ⟨rfl, hshort⟩
    | precisionOutOfRange hbeyond => omega
  · intro h
    rcases h with ⟨rfl, hshort⟩
    cases htable : tableLines precision series with
    | ok lines => exact absurd hshort (not_endsEarly_of_tableLines htable)
    | error error =>
      cases fault_of_tableLines htable with
      | missingEntry _ => rfl
      | precisionOutOfRange hbeyond => omega

end Tables

/-! ## Reports -/

theorem fault_of_runLines {precision : Nat} {result : RunResult} {error : RenderError}
    (h : runLines precision result = .error error) :
    Fault precision result.EndsEarly error := by
  unfold runLines at h
  cases hseries : result.series with
  | none =>
    rw [hseries] at h
    cases h
  | some series =>
    simp only [hseries, bind_eq_error_iff] at h
    rcases h with h | ⟨table, -, h⟩
    · exact (fault_of_tableLines h).mono fun hshort ↦ ⟨series, hseries, hshort⟩
    · cases h

theorem fault_of_trialLines {precision : Nat} {trial : String} {results : List RunResult}
    {error : RenderError} (h : trialLines precision trial results = .error error) :
    Fault precision (∃ result ∈ results, result.EndsEarly) error := by
  unfold trialLines at h
  split at h
  · simp only [bind_eq_error_iff, mapM_eq_error_iff] at h
    rcases h with ⟨place, result, hfirst, h⟩ | ⟨tables, -, h⟩
    · exact (fault_of_runLines h).mono fun hshort ↦ ⟨result, hfirst.mem, hshort⟩
    · cases h
  · cases h

theorem fault_of_resultsLines {precision : Nat} {runs : List RunResult} {error : RenderError}
    (h : resultsLines precision runs = .error error) :
    Fault precision (∃ result ∈ runs, result.EndsEarly) error := by
  unfold resultsLines at h
  split at h
  · simp only [bind_eq_error_iff, mapM_eq_error_iff] at h
    rcases h with ⟨place, ⟨trial, results⟩, hfirst, h⟩ | ⟨trials, -, h⟩
    · apply (fault_of_trialLines h).mono
      intro hshort
      rcases hshort with ⟨result, hresult, hshort⟩
      have hmem : result ∈ runs.filter (·.trial = trial) :=
        (perm_of_mem_entries_groupByTrial hfirst.mem).subset hresult
      exact ⟨result, List.mem_of_mem_filter hmem, hshort⟩
    · cases h
  · cases h

/-- A report without a text lacks an entry of one of its series, or there are too many places. -/
theorem fault_of_markdown {options : ReportOptions} {report : Report} {error : RenderError}
    (h : report.markdown options = .error error) :
    Fault options.precision (∃ result ∈ report.runs, result.EndsEarly) error := by
  unfold Report.markdown lines at h
  simp only [bind_eq_error_iff] at h
  rcases h with (h | ⟨results, -, h⟩) | ⟨lines, -, h⟩
  · exact fault_of_resultsLines h
  · cases h
  · cases h

end Report.Markdown

end TrialSeries
