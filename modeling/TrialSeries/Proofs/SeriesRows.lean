import TrialSeries.Proofs.AlignedSeries
import TrialSeries.Proofs.PointSeries
import TrialSeries.Proofs.SeriesFaults

/-!
# Rows of a series

What a series of blocks at points says at one setting depends on the blocks at that setting and on
the names of the metrics, and on nothing else. So these blocks alone have a series of that one row,
blocks at other settings may come, go and change places among them, and only a change of the order
of the blocks at the setting itself can show, in the last digits of its sums.
-/

open scoped List

namespace TrialSeries

/-! ## Rows -/

/-- What is said at one setting: the number of blocks, and for each metric its name, mean, deviation
and count, by ascending name. -/
structure Row where
  blocks : Nat
  metrics : List (String × Binary64 × Binary64 × Nat)
deriving DecidableEq

/-- The mean, the deviation and the count at a place, if all three lists reach that far. -/
def Statistics.entryAt? (statistics : Statistics) (place : Nat) :
    Option (Binary64 × Binary64 × Nat) := do
  let mean ← statistics.mean[place]?
  let deviation ← statistics.deviation[place]?
  let count ← statistics.count[place]?
  some (mean, deviation, count)

namespace Series

/-- The row at a place, if all lists of the series reach that far. -/
def rowAt? (series : Series) (place : Nat) : Option Row := do
  let blocks ← series.blocks[place]?
  let metrics ← series.metrics.entries.mapM fun (name, statistics) ↦
    (statistics.entryAt? place).map (name, ·)
  some ⟨blocks, metrics⟩

/-- The row at a setting. -/
def row? (series : Series) (setting : Setting) : Option Row :=
  if setting ∈ series.settings then series.rowAt? (series.settings.idxOf setting) else none

end Series

namespace Aggregation

/-- The row of some blocks, all of them at one setting. -/
def rowOf (names : List String) (blocks : List Block) : Row :=
  ⟨blocks.length, names.map fun name ↦
    (name, Binary64.mean (blocks.flatMap (·.valuesOf name)),
      Binary64.deviation (blocks.flatMap (·.valuesOf name)),
      (blocks.flatMap (·.valuesOf name)).length)⟩

section Blocks

variable {blocks others : List Block} {setting : Setting}

theorem blocksAt_ne_nil_iff :
    blocksAt setting blocks ≠ [] ↔ ∃ block ∈ blocks, block.axis = .point setting := by
  simp [blocksAt]

theorem blocksAt_blocksAt :
    blocksAt setting (blocksAt setting blocks) = blocksAt setting blocks := by
  simp [blocksAt]

theorem mem_of_mem_blocksAt {block : Block} (h : block ∈ blocksAt setting blocks) :
    block ∈ blocks ∧ block.axis = .point setting := by
  simpa [blocksAt] using h

theorem perm_blocksAt (h : others ~ blocks) (setting : Setting) :
    blocksAt setting others ~ blocksAt setting blocks :=
  h.filter _

theorem perm_observedAt (h : others ~ blocks) (name : String) (setting : Setting) :
    observedAt name setting others ~ observedAt name setting blocks :=
  (perm_blocksAt h setting).flatMap_right _

theorem metricNames_congr
    (h : ∀ name, (∃ block ∈ others, name ∈ block.metrics.keys) ↔
      ∃ block ∈ blocks, name ∈ block.metrics.keys) :
    metricNames others = metricNames blocks := by
  apply ascendingDistinct_congr
  intro name
  rw [List.mem_flatMap, List.mem_flatMap, h]

end Blocks

/-! ## Rows of a summary -/

namespace Summarizes

variable {blocks others : List Block} {series other : Series}

theorem keys_eq (h : Summarizes blocks series) : series.metrics.keys = metricNames blocks := by
  apply eq_of_ascending_of_mem_iff series.metrics.ascending_keys (pairwise_metricNames blocks)
  intro name
  rw [h.mem_names, mem_metricNames]

theorem mem_settings_iff (h : Summarizes blocks series) {setting : Setting} :
    setting ∈ series.settings ↔ blocksAt setting blocks ≠ [] := by
  rw [h.mem_settings, blocksAt_ne_nil_iff]

theorem rowAt?_eq (h : Summarizes blocks series) {place : Nat} {setting : Setting}
    (hplace : series.settings[place]? = some setting) :
    series.rowAt? place = some (rowOf (metricNames blocks) (blocksAt setting blocks)) := by
  have hblocks : series.blocks[place]? = some (blocksAt setting blocks).length := by
    rw [h.blocks_eq, List.getElem?_map, hplace, Option.map_some]
  have hentry : ∀ entry ∈ series.metrics.entries,
      (entry.2.entryAt? place).map (entry.1, ·) =
        some (entry.1, Binary64.mean (observedAt entry.1 setting blocks),
          Binary64.deviation (observedAt entry.1 setting blocks),
          (observedAt entry.1 setting blocks).length) := by
    intro entry hentry
    have hget := SortedMap.get?_eq_some_iff.2 hentry
    simp [Statistics.entryAt?, h.mean_eq _ _ hget, h.deviation_eq _ _ hget, h.count_eq _ _ hget,
      hplace]
  rw [Series.rowAt?, hblocks, Option.bind_eq_bind, Option.bind_some, mapM_eq_some_map hentry,
    Option.bind_eq_bind, Option.bind_some, rowOf, ← h.keys_eq, SortedMap.keys, List.map_map]
  rfl

/-- The row at a setting is the row of the blocks there. -/
theorem row?_eq (h : Summarizes blocks series) (setting : Setting) :
    series.row? setting = if blocksAt setting blocks = [] then none
      else some (rowOf (metricNames blocks) (blocksAt setting blocks)) := by
  by_cases hnone : blocksAt setting blocks = []
  · have habsent : setting ∉ series.settings := fun hmem ↦ h.mem_settings_iff.1 hmem hnone
    rw [Series.row?, if_neg habsent, if_pos hnone]
  · have hmem := h.mem_settings_iff.2 hnone
    rw [Series.row?, if_pos hmem, if_neg hnone, h.rowAt?_eq (List.getElem?_idxOf hmem)]

/-- The settings of a summary are those at which there are blocks. -/
theorem settings_eq (h : Summarizes blocks series) (hother : Summarizes others other)
    (hat : ∀ setting, blocksAt setting others ≠ [] ↔ blocksAt setting blocks ≠ []) :
    other.settings = series.settings := by
  apply eq_of_ascending_of_mem_iff hother.ascending h.ascending
  intro setting
  rw [hother.mem_settings_iff, h.mem_settings_iff, hat]

/-- Blocks at other settings may stand anywhere between the blocks at a setting. -/
theorem of_blocksAt_eq (h : Summarizes others series)
    (hnames : ∀ name, (∃ block ∈ others, name ∈ block.metrics.keys) ↔
      ∃ block ∈ blocks, name ∈ block.metrics.keys)
    (hat : ∀ setting, blocksAt setting others = blocksAt setting blocks) :
    Summarizes blocks series where
  ascending := h.ascending
  mem_settings setting := by rw [h.mem_settings_iff, hat, blocksAt_ne_nil_iff]
  blocks_eq := by simpa only [hat] using h.blocks_eq
  mem_names name := by rw [h.mem_names, hnames]
  count_eq name statistics hget := by
    simpa only [observedAt, hat] using h.count_eq name statistics hget
  mean_eq name statistics hget := by
    simpa only [observedAt, hat] using h.mean_eq name statistics hget
  deviation_eq name statistics hget := by
    simpa only [observedAt, hat] using h.deviation_eq name statistics hget
  truncated_eq := h.truncated_eq

/-- The numbers of blocks and of values do not depend on the order of the blocks. -/
theorem counts_eq (h : Summarizes blocks series) (hother : Summarizes others other)
    (hperm : others ~ blocks) (hsettings : other.settings = series.settings) :
    other.blocks = series.blocks ∧
      ∀ name, (other.metric? name).map (·.count) = (series.metric? name).map (·.count) := by
  constructor
  · rw [hother.blocks_eq, h.blocks_eq, hsettings]
    exact List.map_congr_left fun setting _ ↦ (perm_blocksAt hperm setting).length_eq
  · intro name
    have hkeys : name ∈ other.metrics.keys ↔ name ∈ series.metrics.keys := by
      rw [hother.mem_names, h.mem_names]
      simp only [hperm.mem_iff]
    rw [SortedMap.mem_keys_iff, SortedMap.mem_keys_iff] at hkeys
    rw [Series.metric?, Series.metric?]
    cases hget : series.metrics.get? name with
    | none =>
      cases hget' : other.metrics.get? name with
      | none => rfl
      | some statistics => simp [hget, hget'] at hkeys
    | some statistics =>
      obtain ⟨found, hfound⟩ := hkeys.2 ⟨statistics, hget⟩
      rw [hfound, Option.map_some, Option.map_some, hother.count_eq name found hfound,
        h.count_eq name statistics hget, hsettings]
      apply congrArg
      exact List.map_congr_left fun setting _ ↦ (perm_observedAt hperm name setting).length_eq

end Summarizes

/-! ## Series of complete runs -/

theorem isComplete_of_ofBlocks {alignment : Alignment} {blocks : List Block} {series : Series}
    (h : Series.ofBlocks alignment blocks = .ok series) : IsComplete blocks := by
  by_cases hne : blocks = []
  · subst hne
    exact fun _ hmem ↦ absurd hmem List.not_mem_nil
  · obtain ⟨hcheck, -⟩ := (Series.ofBlocks_eq_ok_iff hne).1 h
    exact checkNames_eq_ok_iff_isComplete.1 (check_eq_ok_iff.1 hcheck).1

/-- Complete blocks at points have a series, which summarizes them. -/
theorem exists_ofBlocks_summarizes {blocks : List Block}
    (hpoints : ∀ block ∈ blocks, block.axis.isVector = false) (hcomplete : IsComplete blocks)
    (alignment : Alignment) :
    ∃ series, Series.ofBlocks alignment blocks = .ok series ∧ Summarizes blocks series := by
  by_cases hne : blocks = []
  · subst hne
    refine ⟨.empty, rfl, ?_⟩
    constructor <;> simp [Series.empty, SortedMap.mem_keys_iff]
  · have hnames := checkNames_eq_ok_iff.1 (checkNames_eq_ok_iff_isComplete.2 hcomplete)
    have hcheck := check_of_points hne hpoints hnames alignment
    have hseries := (Series.ofBlocks_eq_ok_iff hne).2 ⟨hcheck, rfl⟩
    exact ⟨collect blocks, hseries, summarizes_ofBlocks hne hpoints hseries⟩

theorem summarizes_of_points {alignment : Alignment} {blocks : List Block} {series : Series}
    (hpoints : ∀ block ∈ blocks, block.axis.isVector = false)
    (h : Series.ofBlocks alignment blocks = .ok series) : Summarizes blocks series := by
  obtain ⟨found, hfound, hsummary⟩ :=
    exists_ofBlocks_summarizes hpoints (isComplete_of_ofBlocks h) alignment
  cases h.symm.trans hfound
  exact hsummary

section Changes

variable {alignment : Alignment} {blocks : List Block} {series : Series}
  (hpoints : ∀ block ∈ blocks, block.axis.isVector = false)
  (h : Series.ofBlocks alignment blocks = .ok series)

include hpoints h

/-- The blocks at a setting have a series of their own, which is the row of the setting. -/
theorem ofBlocks_blocksAt {setting : Setting} (hsetting : setting ∈ series.settings) :
    ∃ single row, Series.ofBlocks alignment (blocksAt setting blocks) = .ok single ∧
      single.settings = [setting] ∧ single.row? setting = some row ∧
      series.row? setting = some row := by
  have hsummary := summarizes_of_points hpoints h
  have hcomplete := isComplete_of_ofBlocks h
  have hne := hsummary.mem_settings_iff.1 hsetting
  obtain ⟨single, hsingle, hown⟩ := exists_ofBlocks_summarizes
    (fun block hblock ↦ hpoints block (mem_of_mem_blocksAt hblock).1)
    (fun block hblock other hother ↦ hcomplete block (mem_of_mem_blocksAt hblock).1 other
      (mem_of_mem_blocksAt hother).1) alignment
  have hnames : metricNames (blocksAt setting blocks) = metricNames blocks := by
    apply metricNames_congr
    intro name
    constructor
    · intro hname
      obtain ⟨block, hblock, hname⟩ := hname
      exact ⟨block, (mem_of_mem_blocksAt hblock).1, hname⟩
    · intro hname
      -- Every block has all metrics, so any block at the setting will do.
      obtain ⟨other, hother, hname⟩ := hname
      obtain ⟨block, hblock⟩ := List.exists_mem_of_ne_nil _ hne
      exact ⟨block, hblock,
        hcomplete block (mem_of_mem_blocksAt hblock).1 other hother name hname⟩
  have hsettings : single.settings = [setting] := by
    apply eq_of_ascending_of_mem_iff hown.ascending (List.pairwise_singleton _ _)
    intro other
    rw [hown.mem_settings, List.mem_singleton]
    constructor
    · intro hat
      obtain ⟨block, hblock, hother⟩ := hat
      cases (mem_of_mem_blocksAt hblock).2.symm.trans hother
      rfl
    · rintro rfl
      rwa [← blocksAt_ne_nil_iff, blocksAt_blocksAt]
  refine ⟨single, rowOf (metricNames blocks) (blocksAt setting blocks), hsingle, hsettings, ?_, ?_⟩
  · rw [hown.row?_eq, blocksAt_blocksAt, if_neg hne, hnames]
  · rw [hsummary.row?_eq, if_neg hne]

/-- Any order of the blocks has a series with the same settings, metrics and counts. -/
theorem exists_ofBlocks_of_perm {others : List Block} (hperm : others ~ blocks) :
    ∃ shuffled, Series.ofBlocks alignment others = .ok shuffled ∧ Summarizes others shuffled ∧
      shuffled.settings = series.settings ∧ shuffled.metrics.keys = series.metrics.keys ∧
      shuffled.blocks = series.blocks ∧
      ∀ name, (shuffled.metric? name).map (·.count) = (series.metric? name).map (·.count) := by
  have hsummary := summarizes_of_points hpoints h
  have hcomplete := isComplete_of_ofBlocks h
  obtain ⟨shuffled, hshuffled, hown⟩ := exists_ofBlocks_summarizes
    (fun block hblock ↦ hpoints block (hperm.mem_iff.1 hblock))
    (fun block hblock other hother ↦ hcomplete block (hperm.mem_iff.1 hblock) other
      (hperm.mem_iff.1 hother)) alignment
  have hsettings := hsummary.settings_eq hown fun setting ↦ by
    simp only [blocksAt_ne_nil_iff, hperm.mem_iff]
  have hkeys : metricNames others = metricNames blocks :=
    metricNames_congr fun name ↦ by simp only [hperm.mem_iff]
  refine ⟨shuffled, hshuffled, hown, hsettings, ?_, hsummary.counts_eq hown hperm hsettings⟩
  rw [hown.keys_eq, hsummary.keys_eq, hkeys]

/-- An order that keeps the blocks at each setting in theirs has the same series. -/
theorem ofBlocks_of_perm {others : List Block} (hperm : others ~ blocks)
    (hat : ∀ setting, blocksAt setting others = blocksAt setting blocks) :
    Series.ofBlocks alignment others = .ok series := by
  obtain ⟨shuffled, hshuffled, hown, -⟩ := exists_ofBlocks_of_perm hpoints h hperm
  have hsame : Summarizes blocks shuffled :=
    hown.of_blocksAt_eq (fun name ↦ by simp only [hperm.mem_iff]) hat
  rw [hshuffled, hsame.unique (summarizes_of_points hpoints h)]

/-- A further block with the same metrics leaves the rows of all other settings as they are. -/
theorem exists_ofBlocks_insert {front back : List Block} {block : Block} {setting : Setting}
    (hblocks : front ++ back = blocks) (hblock : block.axis = .point setting)
    (hkeys : ∀ other ∈ blocks, block.metrics.keys = other.metrics.keys) :
    ∃ grown, Series.ofBlocks alignment (front ++ block :: back) = .ok grown ∧
      ∀ other, other ≠ setting → grown.row? other = series.row? other := by
  have hsummary := summarizes_of_points hpoints h
  have hmem (other : Block) : other ∈ front ++ block :: back ↔ other = block ∨ other ∈ blocks := by
    rw [← hblocks]
    simp only [List.mem_append, List.mem_cons]
    tauto
  have hpoints' : ∀ other ∈ front ++ block :: back, other.axis.isVector = false := by
    intro other hother
    rcases (hmem other).1 hother with rfl | hother
    · rw [hblock]
      rfl
    · exact hpoints other hother
  have hkeys' : ∀ other ∈ front ++ block :: back, other.metrics.keys = block.metrics.keys := by
    intro other hother
    rcases (hmem other).1 hother with rfl | hother
    · rfl
    · exact (hkeys other hother).symm
  have hcomplete : IsComplete (front ++ block :: back) := by
    intro first hfirst second hsecond name hname
    rw [hkeys' first hfirst, ← hkeys' second hsecond]
    exact hname
  obtain ⟨grown, hgrown, hown⟩ := exists_ofBlocks_summarizes hpoints' hcomplete alignment
  refine ⟨grown, hgrown, ?_⟩
  intro other hother
  have hat : blocksAt other (front ++ block :: back) = blocksAt other blocks := by
    have hskipped : block.axis ≠ .point other := by
      rw [hblock]
      rintro ⟨⟩
      exact hother rfl
    simp [blocksAt, ← hblocks, hskipped]
  rw [hown.row?_eq, hsummary.row?_eq, hat]
  by_cases hnone : blocksAt other blocks = []
  · rw [if_pos hnone, if_pos hnone]
  · -- There is a block already, which names the metrics of the run.
    obtain ⟨found, hfound⟩ := List.exists_mem_of_ne_nil _ hnone
    have hfound := (mem_of_mem_blocksAt hfound).1
    have hnames : metricNames (front ++ block :: back) = metricNames blocks := by
      apply metricNames_congr
      intro name
      simp only [hmem, or_and_right, exists_or, exists_eq_left, or_iff_right_iff_imp]
      intro hname
      exact ⟨found, hfound, hkeys found hfound ▸ hname⟩
    rw [hnames]

end Changes

/-- Each row of a series of blocks at points is the series of the blocks at its setting. So blocks
at other settings may change places with them or be added, and any order of the blocks has a series
that differs in sums at most. -/
theorem rows_ofBlocks_local {alignment : Alignment} {blocks : List Block} {series : Series}
    (hpoints : ∀ block ∈ blocks, block.axis.isVector = false)
    (h : Series.ofBlocks alignment blocks = .ok series) :
    (∀ setting ∈ series.settings, ∃ single row,
      Series.ofBlocks alignment (blocksAt setting blocks) = .ok single ∧
        single.settings = [setting] ∧ single.row? setting = some row ∧
        series.row? setting = some row) ∧
    (∀ others, others ~ blocks →
      (∀ setting, blocksAt setting others = blocksAt setting blocks) →
        Series.ofBlocks alignment others = .ok series) ∧
    (∀ front back block setting, front ++ back = blocks → block.axis = .point setting →
      (∀ other ∈ blocks, block.metrics.keys = other.metrics.keys) →
        ∃ grown, Series.ofBlocks alignment (front ++ block :: back) = .ok grown ∧
          ∀ other, other ≠ setting → grown.row? other = series.row? other) ∧
    ∀ others, others ~ blocks →
      ∃ shuffled, Series.ofBlocks alignment others = .ok shuffled ∧
        shuffled.settings = series.settings ∧ shuffled.metrics.keys = series.metrics.keys ∧
        shuffled.blocks = series.blocks ∧
        ∀ name, (shuffled.metric? name).map (·.count) = (series.metric? name).map (·.count) := by
  refine ⟨fun setting ↦ ofBlocks_blocksAt hpoints h, fun others ↦ ofBlocks_of_perm hpoints h,
    fun front back block setting ↦ exists_ofBlocks_insert hpoints h, ?_⟩
  intro others hperm
  obtain ⟨shuffled, hshuffled, -, hsame⟩ := exists_ofBlocks_of_perm hpoints h hperm
  exact ⟨shuffled, hshuffled, hsame⟩

/-- The blocks of `labelledRun` with the one at the number before the two at the label. -/
def numberFirstRun : List Block :=
  [(Block.start (.point (.number ⟨0x3ff0000000000000⟩))).record "m" [],
   (Block.start (.point (.label "b"))).record "m" [⟨0x3ff0000000000000⟩, ⟨0x4000000000000000⟩],
   (Block.start (.point (.label "b"))).record "m" [⟨0x4008000000000000⟩]]

theorem blocksAt_numberFirstRun (setting : Setting) :
    blocksAt setting numberFirstRun = blocksAt setting labelledRun := by
  by_cases hlabel : setting = .label "b"
  · subst hlabel
    rfl
  · have hskipped : Axis.point (.label "b") ≠ .point setting := by
      rintro ⟨⟩
      exact hlabel rfl
    simp [blocksAt, numberFirstRun, labelledRun, Block.start, List.filter_cons, hskipped]

theorem rows_ofBlocks_local_labelledRun :
    (∀ block ∈ labelledRun, block.axis.isVector = false) ∧ numberFirstRun ~ labelledRun ∧
      labelledRun.reverse ~ labelledRun ∧
      ∃ series, Series.ofBlocks .reject labelledRun = .ok series ∧
        (∃ single row,
          Series.ofBlocks .reject (blocksAt (.label "b") labelledRun) = .ok single ∧
            single.settings = [.label "b"] ∧ single.row? (.label "b") = some row ∧
            series.row? (.label "b") = some row) ∧
        Series.ofBlocks .reject numberFirstRun = .ok series ∧
        (∃ grown, Series.ofBlocks .reject
            (labelledRun ++ [(Block.start (.point (.label "b"))).record "m" [.zero]]) = .ok grown ∧
          ∀ other, other ≠ .label "b" → grown.row? other = series.row? other) ∧
        ∃ shuffled, Series.ofBlocks .reject labelledRun.reverse = .ok shuffled ∧
          shuffled.settings = series.settings ∧ shuffled.metrics.keys = series.metrics.keys ∧
          shuffled.blocks = series.blocks ∧
          ∀ name, (shuffled.metric? name).map (·.count) = (series.metric? name).map (·.count) := by
  have hpoints : ∀ block ∈ labelledRun, block.axis.isVector = false := by decide
  have hfirst : numberFirstRun ~ labelledRun := by decide
  have hreverse : labelledRun.reverse ~ labelledRun := List.reverse_perm labelledRun
  have hseries : Series.ofBlocks .reject labelledRun = .ok (collect labelledRun) := rfl
  have hsetting : .label "b" ∈ (collect labelledRun).settings := by decide
  have hkeys : ∀ other ∈ labelledRun,
      ((Block.start (.point (.label "b"))).record "m" [.zero]).metrics.keys =
        other.metrics.keys := by decide
  obtain ⟨hown, hmoved, hadded, hshuffled⟩ := rows_ofBlocks_local hpoints hseries
  exact ⟨hpoints, hfirst, hreverse, _, hseries, hown _ hsetting,
    hmoved _ hfirst blocksAt_numberFirstRun,
    hadded labelledRun [] _ _ (List.append_nil _) rfl hkeys, hshuffled _ hreverse⟩

end Aggregation

end TrialSeries
