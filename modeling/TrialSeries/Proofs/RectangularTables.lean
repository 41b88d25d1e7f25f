import TrialSeries.Proofs.PlainSeries

/-!
# Bars in tables

The cells of a table end at bars. A table has a line of names, a line of dashes and one line for each
setting, and each of them has a bar before its first cell and one behind the cells for the setting,
the blocks and each metric. Names and labels are written as they are, so that each bar in a name or a
label is one more in the line where it stands, and it moves the cells behind it to other columns.
-/

namespace TrialSeries

open Text

namespace Report.Markdown

/-! ## Counting bars -/

def barCount (text : String) : Nat := text.toList.count '|'

@[simp] theorem barCount_append (left right : String) :
    barCount (left ++ right) = barCount left + barCount right := by
  simp [barCount]

@[simp] theorem barCount_join (texts : List String) :
    barCount (String.join texts) = (texts.map barCount).sum := by
  induction texts with
  | nil => rfl
  | cons text texts ih => rw [String.join_cons, barCount_append, ih, List.map_cons, List.sum_cons]

theorem barCount_eq_zero_iff {text : String} : barCount text = 0 ↔ '|' ∉ text.toList :=
  List.count_eq_zero

theorem barCount_eq_zero_of_forall_isNumeral {text : String}
    (h : ∀ char ∈ text.toList, IsNumeral char) : barCount text = 0 :=
  barCount_eq_zero_iff.2 (notMem_of_forall_isNumeral (by decide) h)

@[simp] theorem barCount_repr (n : Nat) : barCount n.repr = 0 :=
  barCount_eq_zero_of_forall_isNumeral isNumeral_of_mem_repr

@[simp] theorem barCount_display (value : Binary64) : barCount value.display = 0 :=
  barCount_eq_zero_of_forall_isNumeral Binary64.isNumeral_of_mem_display

@[simp] theorem barCount_numberText (precision : Nat) (value : Binary64) :
    barCount (numberText precision value) = 0 := by
  unfold numberText
  split
  · decide
  · exact barCount_eq_zero_of_forall_isNumeral Binary64.isNumeral_of_mem_fixed

/-! ## Lines of a table -/

theorem barCount_headerRow (names : List String) :
    barCount (headerRow names) = names.length + 3 + (names.map barCount).sum := by
  have hnames : ((names.map fun name ↦ " " ++ name ++ " |").map barCount).sum =
      names.length + (names.map barCount).sum := by
    induction names with
    | nil => rfl
    | cons name names ih =>
      have hbars : barCount " " = 0 ∧ barCount " |" = 1 := by decide
      simp only [List.map_cons, List.sum_cons, List.length_cons, ih, barCount_append, hbars]
      omega
  have hfront : barCount "| x | blocks |" = 3 := by decide
  rw [headerRow, barCount_append, barCount_join, hnames, hfront]
  omega

theorem barCount_delimiterRow (names : List String) :
    barCount (delimiterRow names) = names.length + 3 := by
  have hcell : barCount "---:|" = 1 := by decide
  have hfront : barCount "|---:|---:|" = 3 := by decide
  simp [delimiterRow, hcell, hfront, Nat.add_comm]

section Rows

variable {precision place : Nat}

theorem barCount_of_isCell {statistics : Statistics} {text : String}
    (h : IsCell precision place statistics text) : barCount text = 1 := by
  have hcell (mean deviation : Binary64) (count : Nat) :
      barCount (cellText precision mean deviation count) = 1 := by
    simp +decide [cellText]
  cases h with
  | counted => exact hcell _ _ _
  | uncounted => exact hcell _ _ _

theorem barCount_of_isRow {series : Series} {setting : Setting} {row : String}
    (h : IsRow precision series place setting row) :
    barCount row = series.metrics.size + 3 + barCount setting.display := by
  obtain ⟨blocks, cells, -, hcells, rfl⟩ := h
  have hone : ∀ text ∈ cells, barCount text = 1 := by
    intro text htext
    obtain ⟨statistics, -, hcell⟩ := exists_mem_of_forall₂_right hcells htext
    exact barCount_of_isCell hcell
  have hlength : cells.length = series.metrics.size := by
    rw [← hcells.length_eq, SortedMap.values, List.length_map, SortedMap.size]
  have hsum : (cells.map barCount).sum = cells.length := by
    rw [List.map_congr_left hone]
    simp
  have hbars : barCount "| " = 1 ∧ barCount " | " = 1 ∧ barCount " |" = 1 := by decide
  simp [hbars, hsum, hlength]
  omega

end Rows

/-! ## The text of a table -/

/-- The text that has each of some lines with a line feed behind it. -/
def textOfLines (lines : List String) : String := String.join (lines.map (· ++ "\n"))

/-- A text is perhaps a note, then a line of names, a line of dashes, one line for each setting and an
empty line. -/
structure IsCutInto (series : Series) (text header delimiter : String) (rows : List String) :
    Prop where
  lines : lineTexts text =
    truncationNote series.truncated ++ (header :: delimiter :: rows) ++ ["", ""]
  length : rows.length = series.length

/-- The bars in the lines of a table: those that end cells, and those of the names and labels. -/
structure HasBars (precision : Nat) (series : Series) (text : String) (rows : List String) :
    Prop where
  cut : IsCutInto series text (headerRow series.metrics.keys) (delimiterRow series.metrics.keys) rows
  shown : List.Forall₂ (fun (setting, place) row ↦ IsRow precision series place setting row)
    series.settings.zipIdx rows
  header : barCount (headerRow series.metrics.keys) =
    series.metrics.size + 3 + (series.metrics.keys.map barCount).sum
  delimiter : barCount (delimiterRow series.metrics.keys) = series.metrics.size + 3
  rows : List.Forall₂
    (fun setting row ↦ barCount row = series.metrics.size + 3 + barCount setting.display)
    series.settings rows

/-- All lines of a table have one bar more than there are cells for the setting, the blocks and the
metrics. -/
def IsRectangular (series : Series) (text : String) : Prop :=
  ∃ header delimiter rows, IsCutInto series text header delimiter rows ∧
    ∀ line ∈ header :: delimiter :: rows, barCount line = series.metrics.size + 3

section Texts

variable {precision : Nat} {series : Series} {text : String} {lines rows : List String}

theorem length_keys_metrics : series.metrics.keys.length = series.metrics.size := by
  rw [SortedMap.keys, List.length_map, SortedMap.size]

/-- A text is cut in one way only. -/
theorem IsCutInto.eq {header delimiter other another : String} {others : List String}
    (h : IsCutInto series text header delimiter rows)
    (hother : IsCutInto series text other another others) :
    header :: delimiter :: rows = other :: another :: others :=
  List.append_cancel_left (List.append_cancel_right (h.lines.symm.trans hother.lines))

theorem exists_hasBars (hrows : series.isEmpty = false) (hplain : series.IsPlain)
    (h : tableLines precision series = .ok lines) :
    ∃ rows, HasBars precision series (textOfLines lines) rows := by
  have honeLine : ∀ line ∈ lines, IsOneLine line := fun _ ↦ isOneLine_of_mem_tableLines hplain h
  obtain ⟨rows, hshown, hlines⟩ := isTable_of_tableLines hrows h
  refine ⟨rows, ⟨?_, ?_⟩, hshown, ?_, ?_, ?_⟩
  · rw [textOfLines, lineTexts_join honeLine, hlines]
    simp
  · rw [← hshown.length_eq, List.length_zipIdx, Series.length]
  · rw [barCount_headerRow, length_keys_metrics]
  · rw [barCount_delimiterRow, length_keys_metrics]
  · rw [← List.zipIdx_map_fst 0 series.settings, List.forall₂_map_left_iff]
    exact hshown.imp fun _ _ ↦ barCount_of_isRow

/-- Bars of names and labels are all that keeps a table from being rectangular. -/
theorem HasBars.isRectangular_iff (h : HasBars precision series text rows) :
    IsRectangular series text ↔
      (∀ name ∈ series.metrics.keys, barCount name = 0) ∧
        ∀ setting ∈ series.settings, barCount setting.display = 0 := by
  constructor
  · intro hall
    obtain ⟨header, delimiter, others, hcut, hbars⟩ := hall
    rw [hcut.eq h.cut, List.forall_mem_cons, List.forall_mem_cons] at hbars
    obtain ⟨hheader, -, hrows⟩ := hbars
    constructor
    · have hsum : (series.metrics.keys.map barCount).sum = 0 := by
        have := h.header
        omega
      simpa [List.sum_eq_zero_iff] using hsum
    · intro setting hsetting
      obtain ⟨row, hrow, hcount⟩ := exists_mem_of_forall₂_left h.rows hsetting
      have := hrows row hrow
      omega
  · intro hnone
    refine ⟨_, _, rows, h.cut, List.forall_mem_cons.2 ⟨?_, List.forall_mem_cons.2 ⟨h.delimiter, ?_⟩⟩⟩
    · have hsum : (series.metrics.keys.map barCount).sum = 0 := by
        simpa [List.sum_eq_zero_iff] using hnone.1
      rw [h.header, hsum, Nat.add_zero]
    · intro row hrow
      obtain ⟨setting, hsetting, hcount⟩ := exists_mem_of_forall₂_right h.rows hrow
      rw [hcount, hnone.2 setting hsetting, Nat.add_zero]

end Texts

theorem barCount_display_eq_zero_iff {settings : List Setting} :
    (∀ setting ∈ settings, barCount setting.display = 0) ↔
      ∀ label, .label label ∈ settings → '|' ∉ label.toList := by
  constructor
  · intro h label hlabel
    exact barCount_eq_zero_iff.1 (h _ hlabel)
  · intro h setting hsetting
    cases setting with
    | number value => exact barCount_display value
    | label text => exact barCount_eq_zero_iff.2 (h text hsetting)

/-- What keeps the table of the series of a log from being rectangular, said of the blocks. -/
theorem bars_iff {alignment : Alignment} {blocks : List Block} {series : Series}
    (hseries : Series.ofBlocks alignment blocks = .ok series) (hrows : series.isEmpty = false) :
    ((∀ name ∈ series.metrics.keys, barCount name = 0) ∧
        ∀ setting ∈ series.settings, barCount setting.display = 0) ↔
      ∀ block ∈ blocks, (∀ name ∈ block.metrics.keys, '|' ∉ name.toList) ∧
        ∀ label, block.axis = .point (.label label) → '|' ∉ label.toList := by
  have hne : blocks ≠ [] := by
    rintro rfl
    cases hseries
    cases hrows
  rw [barCount_display_eq_zero_iff]
  simp only [Series.label_mem_settings_iff hseries, Series.mem_keys_ofBlocks_iff hne hseries hrows,
    barCount_eq_zero_iff]
  constructor
  · intro h block hblock
    exact ⟨fun name hname ↦ h.1 name ⟨block, hblock, hname⟩,
      fun label hlabel ↦ h.2 label ⟨block, hblock, hlabel⟩⟩
  · intro h
    constructor
    · rintro name ⟨block, hblock, hname⟩
      exact (h block hblock).1 name hname
    · rintro label ⟨block, hblock, hlabel⟩
      exact (h block hblock).2 label hlabel

/-- A log that gives a series with rows has a table of it, unless the numbers are to have too many
places. Each metric has its cell in each row, in the order of the header, but the table is
rectangular if and only if no metric name and no label of the log has a bar. -/
theorem isRectangular_table_iff {rule : Extraction} {alignment : Alignment} {text : String}
    {blocks : List Block} {series : Series} (hparse : RunLog.parse rule text = .ok blocks)
    (hseries : Series.ofBlocks alignment blocks = .ok series) (hrows : series.isEmpty = false)
    (precision : Nat) :
    (precision ≤ maxPrecision → ∃ lines, tableLines precision series = .ok lines) ∧
      ∀ lines, tableLines precision series = .ok lines →
        (∃ rows, HasBars precision series (textOfLines lines) rows) ∧
          (IsRectangular series (textOfLines lines) ↔
            ∀ block ∈ blocks, (∀ name ∈ block.metrics.keys, '|' ∉ name.toList) ∧
              ∀ label, block.axis = .point (.label label) → '|' ∉ label.toList) := by
  constructor
  · exact exists_tableLines_eq_ok (Series.isAligned_ofBlocks hseries)
  · intro lines hlines
    obtain ⟨rows, hbars⟩ := exists_hasBars hrows (Series.isPlain_ofBlocks hparse hseries) hlines
    exact ⟨⟨rows, hbars⟩, hbars.isRectangular_iff.trans (bars_iff hseries hrows)⟩

/-- A metric at two labels, without a bar. -/
def barlessLog : String := "settings:A\nm:1,2\nsettings:B\nm:3\n"

def barlessRun : List Block :=
  [(Block.start (.point (.label "A"))).record "m" [⟨0x3ff0000000000000⟩, ⟨0x4000000000000000⟩],
   (Block.start (.point (.label "B"))).record "m" [⟨0x4008000000000000⟩]]

theorem isRectangular_table_iff_barlessLog :
    RunLog.parse .whole barlessLog = .ok barlessRun ∧
      ∃ series, Series.ofBlocks .truncate barlessRun = .ok series ∧ series.isEmpty = false ∧
        ∃ lines, tableLines 3 series = .ok lines ∧ IsRectangular series (textOfLines lines) := by
  have hparse : RunLog.parse .whole barlessLog = .ok barlessRun := by decide +kernel
  have hseries : Series.ofBlocks .truncate barlessRun =
      .ok (Aggregation.collect barlessRun) := rfl
  have hrows : (Aggregation.collect barlessRun).isEmpty = false := by decide
  have hnames : ∀ block ∈ barlessRun, ∀ name ∈ block.metrics.keys, '|' ∉ name.toList := by decide
  have hlabels : ∀ block ∈ barlessRun, ∀ label, block.axis = .point (.label label) →
      '|' ∉ label.toList := by
    simp only [barlessRun, List.forall_mem_cons]
    refine ⟨?_, ?_, List.forall_mem_nil _⟩
    all_goals
      rintro label ⟨⟩
      decide
  obtain ⟨hwritten, htable⟩ := isRectangular_table_iff hparse hseries hrows 3
  obtain ⟨lines, hlines⟩ := hwritten (by decide)
  exact ⟨hparse, _, hseries, hrows, lines, hlines,
    (htable lines hlines).2.2 fun block hblock ↦ ⟨hnames block hblock, hlabels block hblock⟩⟩

/-- Two metrics, the name of the first of them with a bar. -/
def barredLog : String := "settings:A\na|b:1\nc:2\n"

def barredRun : List Block :=
  [((Block.start (.point (.label "A"))).record "a|b" [⟨0x3ff0000000000000⟩]).record "c"
    [⟨0x4000000000000000⟩]]

/-- Not every table is rectangular: a name with a bar puts two names over the first metric, and the
name of the second one stands over no cell. -/
theorem not_forall_isRectangular :
    ¬ ∀ (rule : Extraction) (alignment : Alignment) (text : String) (blocks : List Block)
      (series : Series) (precision : Nat) (lines : List String),
      RunLog.parse rule text = .ok blocks → Series.ofBlocks alignment blocks = .ok series →
        series.isEmpty = false → tableLines precision series = .ok lines →
          IsRectangular series (textOfLines lines) := by
  intro h
  have hparse : RunLog.parse .whole barredLog = .ok barredRun := by decide +kernel
  have hseries : Series.ofBlocks .truncate barredRun = .ok (Aggregation.collect barredRun) := rfl
  have hrows : (Aggregation.collect barredRun).isEmpty = false := by decide
  obtain ⟨lines, hlines⟩ : ∃ lines, tableLines 3 (Aggregation.collect barredRun) = .ok lines :=
    exists_tableLines_eq_ok (Series.isAligned_ofBlocks hseries) (by decide)
  obtain ⟨rows, hbars⟩ := exists_hasBars hrows (Series.isPlain_ofBlocks hparse hseries) hlines
  have hrectangular := h _ _ _ _ _ _ _ hparse hseries hrows hlines
  have hnames := (hbars.isRectangular_iff.1 hrectangular).1
  exact absurd (hnames "a|b" (by decide)) (by decide)

end Report.Markdown

end TrialSeries
