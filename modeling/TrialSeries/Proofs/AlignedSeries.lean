import TrialSeries.Proofs.Grouping
import TrialSeries.Proofs.Recording
import TrialSeries.Proofs.SeriesChecks

/-!
# Aligned series

Every list of the series of a run has one entry for each setting, so whatever is looked up at the
place of a setting is there. In any other series a block of means can be made at a place exactly if
every mean reaches that place.
-/

namespace TrialSeries

/-! ## Steps that may find nothing -/

theorem mapM_eq_none_iff {α β : Type} {find : α → Option β} {items : List α} :
    items.mapM find = none ↔ ∃ item ∈ items, find item = none := by
  induction items with
  | nil => simp
  | cons head rest ih =>
    rw [List.mapM_cons, List.exists_mem_cons_iff, ← ih]
    cases find head with
    | none => simp
    | some value => cases rest.mapM find <;> simp

theorem mapM_eq_some_map {α β : Type} {find : α → Option β} {value : α → β} {items : List α}
    (h : ∀ item ∈ items, find item = some (value item)) :
    items.mapM find = some (items.map value) := by
  induction items with
  | nil => rfl
  | cons head rest ih =>
    obtain ⟨hhead, hrest⟩ := List.forall_mem_cons.1 h
    simp [List.mapM_cons, hhead, ih hrest]

namespace Series

/-! ## Alignment -/

/-- Every list of a series has one entry for each setting. -/
structure IsAligned (series : Series) : Prop where
  blocks_length : series.blocks.length = series.length
  mean_length : ∀ statistics ∈ series.metrics.values, statistics.mean.length = series.length
  deviation_length : ∀ statistics ∈ series.metrics.values,
    statistics.deviation.length = series.length
  count_length : ∀ statistics ∈ series.metrics.values, statistics.count.length = series.length

end Series

namespace Aggregation

variable {names : List String} {observations : List Observation} {truncated : Nat}

/-- The statistics of a metric are those of the values observed at each setting. -/
theorem ofGroups_of_mem_values {statistics : Statistics}
    (h : statistics ∈ (seriesOf names (group observations) truncated).metrics.values) :
    ∃ name, statistics = .ofGroups ((group observations).keys.map fun setting ↦
      valuesOf name (metricsAt setting observations)) := by
  obtain ⟨name, hname⟩ := SortedMap.mem_values_iff.1 h
  rw [get?_metrics_seriesOf_group, Option.ite_none_right_eq_some] at hname
  exact ⟨name, (Option.some.inj hname.2).symm⟩

theorem isAligned_seriesOf_group (names : List String) (observations : List Observation)
    (truncated : Nat) : (seriesOf names (group observations) truncated).IsAligned := by
  have hlists {statistics : Statistics}
      (h : statistics ∈ (seriesOf names (group observations) truncated).metrics.values) :
      statistics.mean.length = (group observations).keys.length ∧
        statistics.deviation.length = (group observations).keys.length ∧
        statistics.count.length = (group observations).keys.length := by
    obtain ⟨name, rfl⟩ := ofGroups_of_mem_values h
    simp [Statistics.ofGroups]
  constructor
  · rw [blocks_seriesOf_group, List.length_map]
    rfl
  · intro statistics h
    exact (hlists h).1
  · intro statistics h
    exact (hlists h).2.1
  · intro statistics h
    exact (hlists h).2.2

/-- A run that has a series has that of the groups of some observations. -/
theorem exists_seriesOf_group {alignment : Alignment} {blocks : List Block} {series : Series}
    (h : Series.ofBlocks alignment blocks = .ok series) :
    ∃ names observations truncated, series = seriesOf names (group observations) truncated := by
  by_cases hne : blocks = []
  · subst hne
    cases h
    exact ⟨[], [], 0, rfl⟩
  · obtain ⟨-, rfl⟩ := (Series.ofBlocks_eq_ok_iff hne).1 h
    rw [collect]
    cases isVectorRun blocks with
    | false => exact ⟨_, _, _, rfl⟩
    | true => exact ⟨_, _, _, rfl⟩

end Aggregation

namespace Series

theorem isAligned_ofBlocks {alignment : Alignment} {blocks : List Block} {series : Series}
    (h : Series.ofBlocks alignment blocks = .ok series) : series.IsAligned := by
  obtain ⟨names, observations, truncated, rfl⟩ := Aggregation.exists_seriesOf_group h
  exact Aggregation.isAligned_seriesOf_group names observations truncated

/-! ## Blocks of means -/

theorem lt_length_of_mem_zipIdx {series : Series} {pair : Setting × Nat}
    (h : pair ∈ series.settings.zipIdx) : pair.2 < series.length := by
  simpa [length] using (List.mem_zipIdx h).2.1

/-- The block at one place, with what is there of each mean. -/
def meanBlock (series : Series) (place : Nat) (setting : Setting) : Block :=
  ⟨.point setting, series.metrics.mapValues fun _ statistics ↦ statistics.mean[place]?.toList⟩

/-- The blocks at all places. -/
def meanBlocks (series : Series) : List Block :=
  series.settings.zipIdx.map fun (setting, place) ↦ series.meanBlock place setting

/-- One step of `blockAt?` after the other records what is there of each mean, up to one that is too
short. -/
theorem foldlM_record (place : Nat) (entries : List (String × Statistics)) (block : Block) :
    entries.foldlM
        (fun block (name, statistics) ↦
          (statistics.mean[place]?).map fun mean ↦ block.record name [mean]) block =
      if ∀ entry ∈ entries, place < entry.2.mean.length then
        some (block.recordAll (entries.map fun entry ↦ (entry.1, entry.2.mean[place]?.toList)))
      else none := by
  -- The block of the statement changes with every entry that is recorded.
  induction entries generalizing block with
  | nil => rfl
  | cons head rest ih =>
    obtain ⟨name, statistics⟩ := head
    simp only [List.foldlM_cons, List.map_cons, Block.recordAll_cons]
    by_cases hhead : place < statistics.mean.length
    · have hrest : (∀ entry ∈ (name, statistics) :: rest, place < entry.2.mean.length) ↔
          ∀ entry ∈ rest, place < entry.2.mean.length :=
        List.forall_mem_cons.trans (and_iff_right hhead)
      rw [if_congr hrest rfl rfl, List.getElem?_eq_getElem hhead]
      exact ih _
    · rw [if_neg fun hall ↦ hhead (hall (name, statistics) List.mem_cons_self),
        List.getElem?_eq_none (Nat.le_of_not_lt hhead)]
      rfl

theorem blockAt?_eq (series : Series) (place : Nat) (setting : Setting) :
    series.blockAt? place setting =
      if ∀ statistics ∈ series.metrics.values, place < statistics.mean.length then
        some (series.meanBlock place setting)
      else none := by
  have hmeans : (Block.start (.point setting)).recordAll (series.metrics.entries.map fun entry ↦
      (entry.1, entry.2.mean[place]?.toList)) = series.meanBlock place setting :=
    Block.recordAll_entries (.point setting)
      (series.metrics.mapValues fun _ statistics ↦ statistics.mean[place]?.toList)
  unfold blockAt?
  rw [foldlM_record, hmeans]
  simp only [SortedMap.values, List.forall_mem_map]

/-- There is no block of means at some place exactly if some mean ends before the settings do. -/
theorem toBlocks?_eq_none_iff {series : Series} :
    series.toBlocks? = none ↔
      ∃ statistics ∈ series.metrics.values, statistics.mean.length < series.length := by
  simp only [toBlocks?, mapM_eq_none_iff, blockAt?_eq, ite_eq_right_iff, reduceCtorEq, imp_false,
    not_forall, not_lt]
  constructor
  · intro h
    rcases h with ⟨⟨setting, place⟩, hmem, statistics, hstatistics, hshort⟩
    exact ⟨statistics, hstatistics, hshort.trans_lt (lt_length_of_mem_zipIdx hmem)⟩
  · intro h
    rcases h with ⟨statistics, hstatistics, hshort⟩
    have hplace : series.settings[statistics.mean.length]? =
        some series.settings[statistics.mean.length] := List.getElem?_eq_getElem hshort
    exact ⟨(_, statistics.mean.length), List.mem_zipIdx_iff_getElem?.2 hplace, statistics,
      hstatistics, le_rfl⟩

/-- A series whose means reach all settings has one block of means for each of them. -/
theorem toBlocks?_eq_some {series : Series}
    (h : ∀ statistics ∈ series.metrics.values, series.length ≤ statistics.mean.length) :
    series.toBlocks? = some series.meanBlocks := by
  apply mapM_eq_some_map
  intro pair hpair
  have hplace := lt_length_of_mem_zipIdx hpair
  obtain ⟨setting, place⟩ := pair
  simp only
  rw [blockAt?_eq, if_pos]
  intro statistics hstatistics
  exact hplace.trans_le (h statistics hstatistics)

theorem IsAligned.toBlocks?_eq {series : Series} (h : series.IsAligned) :
    series.toBlocks? = some series.meanBlocks := by
  apply toBlocks?_eq_some
  intro statistics hstatistics
  exact (h.mean_length statistics hstatistics).ge

end Series

end TrialSeries
