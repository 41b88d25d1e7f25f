import TrialSeries.Proofs.EntryLookup
import TrialSeries.Proofs.LogSections
import TrialSeries.Proofs.Reaggregation
import TrialSeries.Proofs.ValueCounts

/-!
# Runs without rows

A series has a row for each position that all vectors of its run have, so one vector without
positions leaves a run of any number of blocks without rows, without metrics and without a note on
what was cut. This happens exactly if the rule asks for vectors and some settings are blank; every
other log with a settings line has a series that shows its blocks.
-/

namespace TrialSeries

/-! ## Series without rows -/

namespace Aggregation

theorem observations_eq_nil_iff {width : Nat} {block : Block} :
    observations width block = [] ↔
      block.axis.isVector = true ∧ (width = 0 ∨ block.axis.length = 0) := by
  unfold observations
  cases block.axis with
  | point setting => simp [Axis.isVector]
  | positions values => simp [Axis.isVector, Axis.length]

theorem exists_shortest_eq {blocks : List Block} (hne : blocks ≠ []) :
    ∃ block ∈ blocks, block.axis.length = shortest blocks :=
  (isLeast_shortest hne).1

theorem axis_eq_positions_nil_iff {axis : Axis} :
    axis = .positions [] ↔ axis.isVector = true ∧ axis.length = 0 := by
  cases axis with
  | point setting => simp [Axis.isVector]
  | positions values => simp [Axis.isVector, Axis.length]

/-- A run whose blocks are of one kind gives no observation exactly if one of its vectors is
empty. -/
theorem flatMap_observations_shortest_eq_nil_iff {blocks : List Block} {kind : Bool}
    (hne : blocks ≠ []) (hkind : ∀ block ∈ blocks, block.axis.isVector = kind) :
    blocks.flatMap (observations (shortest blocks)) = [] ↔
      ∃ block ∈ blocks, block.axis = .positions [] := by
  simp only [List.flatMap_eq_nil_iff, observations_eq_nil_iff, axis_eq_positions_nil_iff]
  constructor
  · intro h
    obtain ⟨block, hblock, hshortest⟩ := exists_shortest_eq hne
    obtain ⟨hvector, hempty⟩ := h block hblock
    exact ⟨block, hblock, hvector, hempty.elim hshortest.trans id⟩
  · intro h block hblock
    rcases h with ⟨found, hfound, hvector, hempty⟩
    have hshortest : shortest blocks = 0 := by
      have := shortest_le found hfound
      omega
    exact ⟨by rw [hkind block hblock, ← hkind found hfound, hvector], .inl hshortest⟩

/-- The series of a run that passes its checks groups the observations of the blocks, each of them
up to the shortest vector. -/
theorem exists_collect_eq_seriesOf {blocks : List Block}
    (haxes : checkAxes blocks = .ok ()) :
    ∃ truncated, collect blocks = seriesOf (metricNames blocks)
      (group (blocks.flatMap (observations (shortest blocks)))) truncated := by
  cases hkind : isVectorRun blocks with
  | true => exact ⟨surplus blocks, by rw [collect, hkind, if_pos rfl]⟩
  | false =>
    have hpoints : ∀ block ∈ blocks, block.axis.isVector = false := by
      intro block hblock
      rw [checkAxes_eq_ok_iff.1 haxes block hblock, hkind]
    have hwidth : blocks.flatMap (observations 0) =
        blocks.flatMap (observations (shortest blocks)) := by
      apply List.flatMap_congr
      intro block hblock
      obtain ⟨setting, hsetting⟩ := Axis.eq_point (hpoints block hblock)
      rw [observations_of_point hsetting, observations_of_point hsetting]
    exact ⟨0, by rw [collect_of_points hpoints, hwidth]⟩

end Aggregation

namespace Series

variable {alignment : Alignment} {blocks : List Block} {series : Series}

theorem isEmpty_iff : series.isEmpty = true ↔ series.settings = [] := List.isEmpty_iff

/-- A run with blocks has no row exactly if one of its vectors has no position. -/
theorem isEmpty_ofBlocks_iff (hne : blocks ≠ [])
    (h : Series.ofBlocks alignment blocks = .ok series) :
    series.isEmpty = true ↔ ∃ block ∈ blocks, block.axis = .positions [] := by
  obtain ⟨hcheck, rfl⟩ := (ofBlocks_eq_ok_iff hne).1 h
  have haxes := (Aggregation.check_eq_ok_iff.1 hcheck).2.1
  obtain ⟨truncated, hcollect⟩ := Aggregation.exists_collect_eq_seriesOf haxes
  have hkind := Aggregation.checkAxes_eq_ok_iff.1 haxes
  rw [isEmpty_iff, hcollect, ← Aggregation.flatMap_observations_shortest_eq_nil_iff hne hkind,
    ← Aggregation.entries_group_eq_nil_iff]
  exact SortedMap.keys_eq_nil_iff

/-- A series with rows has all metrics of its run. -/
theorem mem_keys_ofBlocks_iff (hne : blocks ≠ [])
    (h : Series.ofBlocks alignment blocks = .ok series) (hrows : series.isEmpty = false)
    (name : String) :
    name ∈ series.metrics.keys ↔ ∃ block ∈ blocks, name ∈ block.metrics.keys := by
  obtain ⟨hcheck, rfl⟩ := (ofBlocks_eq_ok_iff hne).1 h
  have haxes := (Aggregation.check_eq_ok_iff.1 hcheck).2.1
  obtain ⟨truncated, hcollect⟩ := Aggregation.exists_collect_eq_seriesOf haxes
  have hobservations :
      blocks.flatMap (Aggregation.observations (Aggregation.shortest blocks)) ≠ [] := by
    intro hnil
    rw [hcollect, hnil] at hrows
    cases hrows
  rw [hcollect, SortedMap.mem_keys_iff, Aggregation.get?_metrics_seriesOf_group,
    ← Aggregation.mem_metricNames]
  simp [hobservations]

theorem metrics_eq_empty (h : Series.ofBlocks alignment blocks = .ok series)
    (hempty : series.isEmpty = true) : series.metrics = ∅ := by
  obtain ⟨names, observations, truncated, rfl⟩ := Aggregation.exists_seriesOf_group h
  have hreducible := Aggregation.isReducible_seriesOf_group names observations truncated
  exact hreducible.metrics_eq_empty (isEmpty_iff.1 hempty)

end Series

/-! ## Vectors without positions -/

/-- Only a blank payload is an empty list of numbers. -/
theorem NumberList.read_eq_ok_nil_iff {separator : Char} {field : String} {line : Nat}
    {payload : List Char} :
    read separator field line payload = .ok [] ↔ Text.trim payload = [] := by
  unfold read
  by_cases hblank : Text.trim payload = []
  · simp [hblank]
  · rw [if_neg hblank, mapM_eq_ok_iff, List.forall₂_nil_right_iff]
    simp [hblank, pieces, Text.splitOn_ne_nil]

/-- Settings give a vector without positions exactly if they are blank and the rule asks for a
vector. -/
theorem Extraction.extract_eq_ok_positions_nil_iff {rule : Extraction} {settings : List Char}
    {line : Nat} :
    rule.extract settings line = .ok (.positions []) ↔
      (∃ separator, rule = .vector separator) ∧ Text.trim settings = [] := by
  cases rule with
  | field index separator =>
    simp only [extract]
    cases (Text.splitOn separator (Text.trim settings))[index]? <;> simp
  | whole => simp [extract]
  | vector separator =>
    simp only [extract]
    rw [map_eq_ok_iff]
    simp [NumberList.read_eq_ok_nil_iff]

namespace RunLog

/-- The settings of a log, line by line. -/
def settingsOf (text : String) : List (List Char) := (Text.lines text.toList).filterMap settings?

/-- Some settings of a log are blank where the rule asks for a vector. -/
def HasBlankVector (rule : Extraction) (text : String) : Prop :=
  (∃ separator, rule = .vector separator) ∧ ∃ settings ∈ settingsOf text, Text.trim settings = []

/-- The blocks of a log and its settings correspond. -/
theorem forall₂_settingsOf {rule : Extraction} {text : String} {blocks : List Block}
    (h : parse rule text = .ok blocks) :
    List.Forall₂ (fun settings block ↦ ∀ number, rule.extract settings number = .ok block.axis)
      (settingsOf text) blocks := by
  obtain ⟨entries, hentries, rfl⟩ := parseLines_eq_ok_iff.1 h
  have hsections := forall₂_sections hentries fun _ _ ↦ Means.rel_settings?
  rw [settingsOf, ← map_fst_sections, blocksOf_eq_map_sections, List.forall₂_map_left_iff,
    List.forall₂_map_right_iff]
  exact hsections.imp fun _ _ hpart ↦ by simpa [blockOf, Block.start] using hpart.1

/-- Reading a log gives a vector without positions exactly if some settings are blank and the rule
asks for a vector. -/
theorem exists_positions_nil_iff {rule : Extraction} {text : String} {blocks : List Block}
    (h : parse rule text = .ok blocks) :
    (∃ block ∈ blocks, block.axis = .positions []) ↔ HasBlankVector rule text := by
  have hsettings := forall₂_settingsOf h
  constructor
  · rintro ⟨block, hblock, haxis⟩
    obtain ⟨settings, hmem, hextract⟩ := exists_mem_of_forall₂_right hsettings hblock
    have hblank := hextract 0
    rw [haxis, Extraction.extract_eq_ok_positions_nil_iff] at hblank
    exact ⟨hblank.1, settings, hmem, hblank.2⟩
  · rintro ⟨hvector, settings, hmem, hblank⟩
    obtain ⟨block, hblock, hextract⟩ := exists_mem_of_forall₂_left hsettings hmem
    have hempty : rule.extract settings 0 = .ok (.positions []) :=
      Extraction.extract_eq_ok_positions_nil_iff.2 ⟨hvector, hblank⟩
    rw [hextract 0] at hempty
    exact ⟨block, hblock, Except.ok.inj hempty⟩

theorem ne_nil_of_settingsOf_ne_nil {rule : Extraction} {text : String} {blocks : List Block}
    (h : parse rule text = .ok blocks) (hsettings : settingsOf text ≠ []) : blocks ≠ [] := by
  have hlength := (forall₂_settingsOf h).length_eq
  have := List.length_pos_of_ne_nil hsettings
  exact List.ne_nil_of_length_pos (by omega)

end RunLog

/-! ## What a table shows of its blocks -/

namespace Report.Markdown

/-- The remark in place of a table. -/
def emptyRemark : String := "*No settings blocks found.*"

/-- The line that says how many observations were cut. -/
def noteLine (truncated : Nat) : String :=
  "> **Note:** " ++ toString truncated ++ " observation(s) dropped to align x vectors."

theorem tableLines_of_isEmpty {precision : Nat} {series : Series} (h : series.isEmpty = true) :
    tableLines precision series = .ok [emptyRemark, ""] := by
  rw [tableLines, if_pos h, emptyRemark]

section Tables

variable {precision : Nat} {series : Series} {lines : List String}

/-- An aligned series has a table. -/
theorem exists_tableLines_eq_ok (h : series.IsAligned) (hprecision : precision ≤ maxPrecision) :
    ∃ lines, tableLines precision series = .ok lines := by
  cases htable : tableLines precision series with
  | ok lines => exact ⟨lines, rfl⟩
  | error error =>
    exact absurd ((tableLines_eq_error_iff hprecision).1 htable).2 h.not_endsEarly

/-- Each line of a table is empty or begins with a bar, apart from the note. -/
theorem IsTable.head?_toList (h : IsTable precision series lines) {line : String}
    (hline : line ∈ lines) : line.toList.head? ∈ [none, some '|', some '>'] := by
  obtain ⟨rows, hrows, rfl⟩ := h
  simp only [List.mem_append, List.mem_cons, List.not_mem_nil, or_false] at hline
  rcases hline with ((hnote | rfl | rfl) | hrow) | rfl
  · rw [truncationNote] at hnote
    split at hnote
    · cases hnote
    · rcases List.mem_pair.1 hnote with rfl | rfl <;> simp
  · simp [headerRow]
  · simp [delimiterRow]
  · obtain ⟨⟨setting, place⟩, -, blocks, cells, -, -, rfl⟩ :=
      exists_mem_of_forall₂_right hrows hrow
    simp
  · simp

theorem IsTable.emptyRemark_notMem (h : IsTable precision series lines) :
    emptyRemark ∉ lines := by
  intro hmem
  have hhead := h.head?_toList hmem
  simp [emptyRemark] at hhead

theorem IsTable.noteLine_mem (h : IsTable precision series lines) (hpos : 0 < series.truncated) :
    noteLine series.truncated ∈ lines := by
  obtain ⟨rows, -, rfl⟩ := h
  simp [truncationNote, noteLine, hpos.ne']

end Tables

end Report.Markdown

/-! ## Series that show their blocks -/

open Report.Markdown in
/-- A series is not empty, has the metrics of its blocks and has a table that does not call the run
empty and says how much was cut. -/
structure ShowsBlocks (blocks : List Block) (series : Series) : Prop where
  isEmpty_eq : series.isEmpty = false
  mem_keys (name : String) :
    name ∈ series.metrics.keys ↔ ∃ block ∈ blocks, name ∈ block.metrics.keys
  exists_table (precision : Nat) :
    precision ≤ maxPrecision → ∃ lines, tableLines precision series = .ok lines
  emptyRemark_notMem (precision : Nat) (lines : List String) :
    tableLines precision series = .ok lines → emptyRemark ∉ lines
  noteLine_mem (precision : Nat) (lines : List String) :
    tableLines precision series = .ok lines → 0 < series.truncated →
      noteLine series.truncated ∈ lines

open Report.Markdown in
theorem showsBlocks_of_isEmpty_eq_false {alignment : Alignment} {blocks : List Block}
    {series : Series} (hne : blocks ≠ []) (h : Series.ofBlocks alignment blocks = .ok series)
    (hrows : series.isEmpty = false) : ShowsBlocks blocks series where
  isEmpty_eq := hrows
  mem_keys := Series.mem_keys_ofBlocks_iff hne h hrows
  exists_table _ := exists_tableLines_eq_ok (Series.isAligned_ofBlocks h)
  emptyRemark_notMem _ _ htable := (isTable_of_tableLines hrows htable).emptyRemark_notMem
  noteLine_mem _ _ htable := (isTable_of_tableLines hrows htable).noteLine_mem

/-- The series of a log with a settings line shows the blocks of the log, unless the rule asks for
vectors and some settings are blank. Then it has no row and no metric, and the remark that the run
has no blocks stands in place of its table, whatever was cut. -/
theorem showsBlocks_iff_not_hasBlankVector {rule : Extraction} {alignment : Alignment}
    {text : String} {blocks : List Block} {series : Series}
    (hsettings : RunLog.settingsOf text ≠ []) (hparse : RunLog.parse rule text = .ok blocks)
    (hseries : Series.ofBlocks alignment blocks = .ok series) :
    (ShowsBlocks blocks series ↔ ¬ RunLog.HasBlankVector rule text) ∧
      (RunLog.HasBlankVector rule text →
        series.isEmpty = true ∧ series.metrics = ∅ ∧
          ∀ precision, Report.Markdown.tableLines precision series =
            .ok [Report.Markdown.emptyRemark, ""]) := by
  have hne : blocks ≠ [] := RunLog.ne_nil_of_settingsOf_ne_nil hparse hsettings
  have hempty : series.isEmpty = true ↔ RunLog.HasBlankVector rule text :=
    (Series.isEmpty_ofBlocks_iff hne hseries).trans (RunLog.exists_positions_nil_iff hparse)
  constructor
  · rw [← hempty, Bool.not_eq_true]
    constructor
    · intro hshows
      exact hshows.isEmpty_eq
    · intro hrows
      exact showsBlocks_of_isEmpty_eq_false hne hseries hrows
  · intro hblank
    have hrowless := hempty.2 hblank
    refine ⟨hrowless, Series.metrics_eq_empty hseries hrowless, ?_⟩
    intro precision
    exact Report.Markdown.tableLines_of_isEmpty hrowless

/-- Vectors of three and two positions. -/
def shorterSecondLog : String := "settings:0,1,2\nm:1,2,3\nsettings:0,1\nm:3,4"

def shorterSecondRun : List Block :=
  [(Block.start (.positions [.zero, ⟨0x3ff0000000000000⟩, ⟨0x4000000000000000⟩])).record "m"
    [⟨0x3ff0000000000000⟩, ⟨0x4000000000000000⟩, ⟨0x4008000000000000⟩],
   (Block.start (.positions [.zero, ⟨0x3ff0000000000000⟩])).record "m"
    [⟨0x4008000000000000⟩, ⟨0x4010000000000000⟩]]

theorem showsBlocks_shorterSecondLog :
    RunLog.settingsOf shorterSecondLog ≠ [] ∧
      RunLog.parse (.vector ',') shorterSecondLog = .ok shorterSecondRun ∧
      ∃ series, Series.ofBlocks .truncate shorterSecondRun = .ok series ∧
        series.truncated = 1 ∧ ShowsBlocks shorterSecondRun series := by
  have hsettings : RunLog.settingsOf shorterSecondLog ≠ [] := by decide +kernel
  have hparse : RunLog.parse (.vector ',') shorterSecondLog = .ok shorterSecondRun := by
    decide +kernel
  have hseries : Series.ofBlocks .truncate shorterSecondRun =
      .ok (Aggregation.collect shorterSecondRun) := rfl
  have hvector : ¬ RunLog.HasBlankVector (.vector ',') shorterSecondLog := by
    unfold RunLog.HasBlankVector
    rw [not_and]
    intro _
    decide +kernel
  have hshows := (showsBlocks_iff_not_hasBlankVector hsettings hparse hseries).1.2 hvector
  exact ⟨hsettings, hparse, _, hseries, rfl, hshows⟩

/-- Two vectors, the first of them without positions. -/
def blankFirstLog : String := "settings:\nm:\nsettings:1,2\nm:3,4\n"

def blankFirstRun : List Block :=
  [(Block.start (.positions [])).record "m" [],
   (Block.start (.positions [⟨0x3ff0000000000000⟩, ⟨0x4000000000000000⟩])).record "m"
    [⟨0x4008000000000000⟩, ⟨0x4010000000000000⟩]]

/-- Not every log with a settings line has a series that shows its blocks. -/
theorem not_forall_showsBlocks :
    ¬ ∀ (rule : Extraction) (alignment : Alignment) (text : String) (blocks : List Block)
      (series : Series), RunLog.settingsOf text ≠ [] → RunLog.parse rule text = .ok blocks →
        Series.ofBlocks alignment blocks = .ok series → ShowsBlocks blocks series := by
  intro hall
  have hparse : RunLog.parse (.vector ',') blankFirstLog = .ok blankFirstRun := by
    decide +kernel
  have hseries : Series.ofBlocks .truncate blankFirstRun =
      .ok (Aggregation.collect blankFirstRun) := rfl
  have hshows := hall _ _ _ _ _ (by decide +kernel) hparse hseries
  have hrowless : (Aggregation.collect blankFirstRun).isEmpty = true := by decide +kernel
  rw [hshows.isEmpty_eq] at hrowless
  cases hrowless

end TrialSeries
