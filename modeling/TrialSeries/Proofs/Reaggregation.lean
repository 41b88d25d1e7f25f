import TrialSeries.Proofs.AlignedSeries
import TrialSeries.Proofs.PointSeries
import TrialSeries.Proofs.SingleValues

/-!
# Aggregating a series again

The blocks of means that a series gives back have a series again, with the same settings, metrics and
means. Each of these means is now that of a single value, so it counts one block and one value, and
has no deviation as long as it is finite. Doing the same once more changes nothing.
-/

namespace TrialSeries

/-- The statistics of each mean, as the only value at its setting. -/
def Statistics.condensed (statistics : Statistics) : Statistics where
  mean := statistics.mean
  deviation := statistics.mean.map fun mean ↦
    if mean.isFinite then Binary64.zero else .quietNaN false
  count := statistics.mean.map fun _ ↦ 1

namespace Series

variable {series : Series}

/-- The series with the same means, each of them as the only value at its setting. -/
def condensed (series : Series) : Series where
  settings := series.settings
  blocks := series.settings.map fun _ ↦ 1
  metrics := series.metrics.mapValues fun _ statistics ↦ statistics.condensed
  truncated := 0

@[simp] theorem settings_condensed (series : Series) :
    series.condensed.settings = series.settings := rfl

theorem get?_metrics_condensed (series : Series) (name : String) :
    series.condensed.metrics.get? name = (series.metrics.get? name).map Statistics.condensed :=
  SortedMap.get?_mapValues _ _ _

theorem keys_metrics_condensed (series : Series) :
    series.condensed.metrics.keys = series.metrics.keys :=
  SortedMap.keys_mapValues _ _

theorem condensed_condensed (series : Series) : series.condensed.condensed = series.condensed := by
  have hmetrics : series.condensed.condensed.metrics = series.condensed.metrics := by
    apply SortedMap.ext_get?
    intro name
    rw [get?_metrics_condensed, get?_metrics_condensed, Option.map_map]
    rfl
  calc
    series.condensed.condensed =
        { series.condensed with metrics := series.condensed.condensed.metrics } := rfl
    _ = series.condensed := by
      rw [hmetrics]

/-- What makes a series come back from its blocks of means. -/
structure IsReducible (series : Series) : Prop where
  ascending : series.settings.Pairwise fun left right ↦ compare left right = .lt
  metrics_eq_empty : series.settings = [] → series.metrics = ∅
  isAligned : series.IsAligned
  exists_mean_eq : ∀ statistics ∈ series.metrics.values, ∀ mean ∈ statistics.mean,
    ∃ values, mean = Binary64.mean values

theorem exists_of_mem_values_condensed {statistics : Statistics}
    (h : statistics ∈ series.condensed.metrics.values) :
    ∃ found ∈ series.metrics.values, found.condensed = statistics := by
  obtain ⟨name, hname⟩ := SortedMap.mem_values_iff.1 h
  rw [get?_metrics_condensed, Option.map_eq_some_iff] at hname
  obtain ⟨found, hfound, hcondensed⟩ := hname
  exact ⟨found, SortedMap.mem_values_iff.2 ⟨name, hfound⟩, hcondensed⟩

theorem IsAligned.condensed (h : series.IsAligned) : series.condensed.IsAligned := by
  constructor
  · exact List.length_map _
  · intro statistics hstatistics
    obtain ⟨found, hfound, rfl⟩ := exists_of_mem_values_condensed hstatistics
    exact h.mean_length found hfound
  · intro statistics hstatistics
    obtain ⟨found, hfound, rfl⟩ := exists_of_mem_values_condensed hstatistics
    exact (List.length_map _).trans (h.mean_length found hfound)
  · intro statistics hstatistics
    obtain ⟨found, hfound, rfl⟩ := exists_of_mem_values_condensed hstatistics
    exact (List.length_map _).trans (h.mean_length found hfound)

theorem IsReducible.condensed (h : series.IsReducible) : series.condensed.IsReducible := by
  constructor
  · exact h.ascending
  · intro hnil
    rw [Series.condensed, h.metrics_eq_empty hnil]
    rfl
  · exact h.isAligned.condensed
  · intro statistics hstatistics
    obtain ⟨found, hfound, rfl⟩ := exists_of_mem_values_condensed hstatistics
    exact h.exists_mean_eq found hfound

end Series

namespace Aggregation

theorem isReducible_seriesOf_group (names : List String) (observations : List Observation)
    (truncated : Nat) : (seriesOf names (group observations) truncated).IsReducible := by
  constructor
  · exact SortedMap.ascending_keys _
  · intro hnil
    exact if_pos (SortedMap.keys_eq_nil_iff.1 hnil)
  · exact isAligned_seriesOf_group names observations truncated
  · intro statistics hstatistics mean hmean
    obtain ⟨name, rfl⟩ := ofGroups_of_mem_values hstatistics
    obtain ⟨values, -, rfl⟩ := List.mem_map.1 hmean
    exact ⟨values, rfl⟩

end Aggregation

/-! ## Blocks of means -/

theorem eq_map_of_getElem? {α β : Type} {items : List α} {f : α → β} {found : List β}
    (hlength : found.length = items.length)
    (h : ∀ (place : Nat) (item : α) (value : β), items[place]? = some item →
      found[place]? = some value → value = f item) : found = items.map f := by
  apply List.ext_getElem
  · rw [hlength, List.length_map]
  · intro place hfound hitem
    rw [List.getElem_map]
    apply h place
    · exact List.getElem?_eq_getElem _
    · exact List.getElem?_eq_getElem hfound

/-- A member of a list without repetition stands at one place only. -/
theorem filter_zipIdx {α : Type} [DecidableEq α] {items : List α} (hnodup : items.Nodup)
    {place : Nat} {item : α} (h : items[place]? = some item) (start : Nat) :
    (items.zipIdx start).filter (·.1 = item) = [(item, start + place)] := by
  induction items generalizing place start with
  | nil => simp at h
  | cons head rest ih =>
    obtain ⟨hhead, hrest⟩ := List.nodup_cons.1 hnodup
    rw [List.zipIdx_cons, List.filter_cons]
    cases place with
    | zero =>
      obtain rfl : head = item := by simpa using h
      have hnone : (rest.zipIdx (start + 1)).filter (·.1 = head) = [] := by
        rw [List.filter_eq_nil_iff]
        intro pair hpair heq
        have hmem : pair.1 ∈ rest := List.fst_mem_of_mem_zipIdx hpair
        rw [of_decide_eq_true heq] at hmem
        exact hhead hmem
      simp [hnone]
    | succ place =>
      rw [List.getElem?_cons_succ] at h
      have hne : head ≠ item := by
        intro heq
        subst heq
        exact hhead (List.mem_of_getElem? h)
      rw [if_neg (by simpa using hne), ih hrest h, Nat.add_right_comm]
      rfl

namespace Series

variable {series : Series}

theorem mem_meanBlocks {block : Block} :
    block ∈ series.meanBlocks ↔ ∃ place setting, series.settings[place]? = some setting ∧
      series.meanBlock place setting = block := by
  simp only [meanBlocks, List.mem_map, Prod.exists, List.mem_zipIdx_iff_getElem?]
  exact exists_comm

theorem meanBlocks_eq_nil_iff : series.meanBlocks = [] ↔ series.settings = [] := by
  simp [meanBlocks]

theorem keys_meanBlock (place : Nat) (setting : Setting) :
    (series.meanBlock place setting).metrics.keys = series.metrics.keys :=
  SortedMap.keys_mapValues _ _

theorem valuesOf_meanBlock {name : String} {statistics : Statistics}
    (h : series.metrics.get? name = some statistics) (place : Nat) (setting : Setting) :
    (series.meanBlock place setting).valuesOf name = statistics.mean[place]?.toList := by
  rw [Block.valuesOf, meanBlock, SortedMap.get?_mapValues, h]
  rfl

theorem isVector_meanBlocks : ∀ block ∈ series.meanBlocks, block.axis.isVector = false := by
  intro block hblock
  obtain ⟨place, setting, -, rfl⟩ := mem_meanBlocks.1 hblock
  rfl

theorem blocksAt_meanBlocks (h : series.IsReducible) {place : Nat} {setting : Setting}
    (hplace : series.settings[place]? = some setting) :
    Aggregation.blocksAt setting series.meanBlocks = [series.meanBlock place setting] := by
  calc
    Aggregation.blocksAt setting series.meanBlocks =
        (series.settings.zipIdx.filter (·.1 = setting)).map fun pair ↦
          series.meanBlock pair.2 pair.1 := by
      rw [Aggregation.blocksAt, meanBlocks, List.filter_map]
      simp [Function.comp_def, meanBlock]
    _ = [series.meanBlock place setting] := by
      rw [filter_zipIdx (nodup_of_ascending h.ascending) hplace, Nat.zero_add]
      rfl

theorem observedAt_meanBlocks (h : series.IsReducible) {place : Nat} {setting : Setting}
    (hplace : series.settings[place]? = some setting) {name : String} {statistics : Statistics}
    (hname : series.metrics.get? name = some statistics) {mean : Binary64}
    (hmean : statistics.mean[place]? = some mean) :
    Aggregation.observedAt name setting series.meanBlocks = [mean] := by
  unfold Aggregation.observedAt
  calc
    (Aggregation.blocksAt setting series.meanBlocks).flatMap (·.valuesOf name) =
        (series.meanBlock place setting).valuesOf name := by
      rw [blocksAt_meanBlocks h hplace, List.flatMap_singleton]
    _ = statistics.mean[place]?.toList := valuesOf_meanBlock hname place setting
    _ = [mean] := by
      rw [hmean]
      rfl

/-- The blocks of means are at the settings of the series. -/
theorem exists_meanBlock_at_iff {setting : Setting} :
    (∃ block ∈ series.meanBlocks, block.axis = .point setting) ↔ setting ∈ series.settings := by
  constructor
  · intro h
    rcases h with ⟨block, hblock, haxis⟩
    obtain ⟨place, found, hplace, rfl⟩ := mem_meanBlocks.1 hblock
    obtain rfl : found = setting := by simpa [meanBlock] using haxis
    exact List.mem_of_getElem? hplace
  · intro hsetting
    obtain ⟨place, hplace⟩ := List.mem_iff_getElem?.1 hsetting
    exact ⟨_, mem_meanBlocks.2 ⟨place, setting, hplace, rfl⟩, rfl⟩

/-- The blocks of means carry the metrics of the series. -/
theorem exists_mem_keys_meanBlocks_iff (hne : series.settings ≠ []) {name : String} :
    (∃ block ∈ series.meanBlocks, name ∈ block.metrics.keys) ↔ name ∈ series.metrics.keys := by
  constructor
  · intro h
    rcases h with ⟨block, hblock, hname⟩
    obtain ⟨place, setting, -, rfl⟩ := mem_meanBlocks.1 hblock
    rwa [keys_meanBlock] at hname
  · intro hname
    obtain ⟨block, hblock⟩ := List.exists_mem_of_ne_nil _ (mt meanBlocks_eq_nil_iff.1 hne)
    obtain ⟨place, setting, -, rfl⟩ := mem_meanBlocks.1 hblock
    refine ⟨_, hblock, ?_⟩
    rwa [keys_meanBlock]

/-- What is listed for each mean is a function of what the blocks of means hold at each setting. -/
theorem map_mean_eq (h : series.IsReducible) {name : String} {statistics : Statistics}
    (hname : series.metrics.get? name = some statistics) {β : Type} {f : Binary64 → β}
    {g : List Binary64 → β} (hsame : ∀ mean ∈ statistics.mean, f mean = g [mean]) :
    statistics.mean.map f = series.settings.map fun setting ↦
      g (Aggregation.observedAt name setting series.meanBlocks) := by
  apply eq_map_of_getElem?
  · rw [List.length_map]
    exact h.isAligned.mean_length statistics (SortedMap.mem_values_iff.2 ⟨name, hname⟩)
  · intro place setting value hplace hvalue
    rw [List.getElem?_map, Option.map_eq_some_iff] at hvalue
    obtain ⟨mean, hmean, rfl⟩ := hvalue
    rw [observedAt_meanBlocks h hplace hname hmean]
    exact hsame mean (List.mem_of_getElem? hmean)

/-- The condensed series summarizes the blocks of means. -/
theorem summarizes_meanBlocks (h : series.IsReducible) (hne : series.settings ≠ []) :
    Aggregation.Summarizes series.meanBlocks series.condensed := by
  have hcondensed {name : String} {statistics : Statistics}
      (hname : series.condensed.metrics.get? name = some statistics) :
      ∃ found, series.metrics.get? name = some found ∧ found.condensed = statistics := by
    rw [get?_metrics_condensed] at hname
    exact Option.map_eq_some_iff.1 hname
  have hmeans {name : String} {statistics : Statistics}
      (hname : series.metrics.get? name = some statistics) :
      ∀ mean ∈ statistics.mean, ∃ values, mean = Binary64.mean values :=
    h.exists_mean_eq statistics (SortedMap.mem_values_iff.2 ⟨name, hname⟩)
  constructor
  · exact h.ascending
  · intro setting
    rw [exists_meanBlock_at_iff, settings_condensed]
  · apply List.map_congr_left
    intro setting hsetting
    obtain ⟨place, hplace⟩ := List.mem_iff_getElem?.1 hsetting
    rw [blocksAt_meanBlocks h hplace]
    rfl
  · intro name
    rw [keys_metrics_condensed]
    exact (exists_mem_keys_meanBlocks_iff hne).symm
  · intro name statistics hname
    obtain ⟨found, hfound, rfl⟩ := hcondensed hname
    apply map_mean_eq h hfound
    intro mean _
    rfl
  · intro name statistics hname
    obtain ⟨found, hfound, rfl⟩ := hcondensed hname
    rw [Statistics.condensed, ← List.map_id found.mean]
    apply map_mean_eq h hfound
    -- What the blocks hold is itself a mean, and rounding does not change it again.
    intro mean hmean
    obtain ⟨values, rfl⟩ := hmeans hfound mean hmean
    exact (Binary64.mean_mean values).symm
  · intro name statistics hname
    obtain ⟨found, hfound, rfl⟩ := hcondensed hname
    apply map_mean_eq h hfound
    intro mean hmean
    obtain ⟨values, rfl⟩ := hmeans hfound mean hmean
    exact (Binary64.deviation_mean values).symm
  · rfl

/-! ## The series of the means -/

theorem check_meanBlocks (hne : series.settings ≠ []) (alignment : Alignment) :
    Aggregation.check alignment series.meanBlocks = .ok () := by
  apply Aggregation.check_of_points (mt meanBlocks_eq_nil_iff.1 hne) isVector_meanBlocks
  intro block hblock name hname
  obtain ⟨place, setting, -, rfl⟩ := mem_meanBlocks.1 hblock
  rw [keys_meanBlock]
  exact (exists_mem_keys_meanBlocks_iff hne).1 (Aggregation.mem_metricNames.1 hname)

theorem ofBlocks_meanBlocks (h : series.IsReducible) (alignment : Alignment) :
    Series.ofBlocks alignment series.meanBlocks = .ok series.condensed := by
  by_cases hnil : series.settings = []
  · have hempty : series.condensed = Series.empty := by
      unfold condensed
      rw [hnil, h.metrics_eq_empty hnil]
      rfl
    rw [meanBlocks_eq_nil_iff.2 hnil, hempty]
    rfl
  · have hne : series.meanBlocks ≠ [] := mt meanBlocks_eq_nil_iff.1 hnil
    apply (Series.ofBlocks_eq_ok_iff hne).2
    constructor
    · exact check_meanBlocks hnil alignment
    · apply (Aggregation.summarizes_collect hne isVector_meanBlocks).unique
      exact summarizes_meanBlocks h hnil

/-- The blocks of means of a run have the condensed series of the run, whatever the alignment, and so
have the blocks of means of that series. -/
theorem reaggregated_eq_condensed {alignment : Alignment} {blocks : List Block}
    (h : Series.ofBlocks alignment blocks = .ok series) (second third : Alignment) :
    ∃ means, series.toBlocks? = some means ∧
      Series.ofBlocks second means = .ok series.condensed ∧
      ∃ again, series.condensed.toBlocks? = some again ∧
        Series.ofBlocks third again = .ok series.condensed := by
  have hreducible : series.IsReducible := by
    obtain ⟨names, observations, truncated, rfl⟩ := Aggregation.exists_seriesOf_group h
    exact Aggregation.isReducible_seriesOf_group names observations truncated
  refine ⟨series.meanBlocks, hreducible.isAligned.toBlocks?_eq,
    ofBlocks_meanBlocks hreducible second, series.condensed.meanBlocks,
    hreducible.condensed.isAligned.toBlocks?_eq, ?_⟩
  calc
    Series.ofBlocks third series.condensed.meanBlocks = .ok series.condensed.condensed :=
      ofBlocks_meanBlocks hreducible.condensed third
    _ = .ok series.condensed := by
      rw [condensed_condensed]

/-- At the number one the labelled run has no value and its mean is NaN. -/
theorem reaggregated_eq_condensed_labelledRun :
    ∃ series, Series.ofBlocks .reject Aggregation.labelledRun = .ok series ∧
      (series.metric? "m").map (·.mean.map (·.isNaN)) = some [true, false] ∧
      ∃ means, series.toBlocks? = some means ∧
        Series.ofBlocks .truncate means = .ok series.condensed ∧
        ∃ again, series.condensed.toBlocks? = some again ∧
          Series.ofBlocks .reject again = .ok series.condensed := by
  have hseries : Series.ofBlocks .reject Aggregation.labelledRun =
      .ok (Aggregation.collect Aggregation.labelledRun) := rfl
  have hmeans : ((Aggregation.collect Aggregation.labelledRun).metric? "m").map
      (·.mean.map (·.isNaN)) = some [true, false] := by decide +kernel
  exact ⟨_, hseries, hmeans, reaggregated_eq_condensed hseries .truncate .reject⟩

end Series

end TrialSeries
