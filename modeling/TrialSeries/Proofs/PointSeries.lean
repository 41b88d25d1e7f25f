import TrialSeries.Proofs.Grouping
import TrialSeries.Proofs.SeriesChecks

/-!
# Series of blocks at points

The series of blocks at points is determined by the blocks, setting by setting: which settings there
are, how many blocks were recorded at each, and for each metric the statistics of all values that
these blocks hold, taken in the order of the blocks.
-/

namespace TrialSeries

theorem Axis.eq_point {axis : Axis} (h : axis.isVector = false) :
    ∃ setting, axis = .point setting := by
  cases axis with
  | point setting => exact ⟨setting, rfl⟩
  | positions values => simp [isVector] at h

namespace Aggregation

/-- The blocks at a point, in their order. -/
def blocksAt (setting : Setting) (blocks : List Block) : List Block :=
  blocks.filter (·.axis = .point setting)

/-- All values of a metric in the blocks at a point, in the order of the blocks. -/
def observedAt (name : String) (setting : Setting) (blocks : List Block) : List Binary64 :=
  (blocksAt setting blocks).flatMap (·.valuesOf name)

/-- What a series of blocks at points has to say about them. -/
structure Summarizes (blocks : List Block) (series : Series) : Prop where
  ascending : series.settings.Pairwise fun left right ↦ compare left right = .lt
  mem_settings : ∀ setting,
    setting ∈ series.settings ↔ ∃ block ∈ blocks, block.axis = .point setting
  blocks_eq : series.blocks =
    series.settings.map fun setting ↦ (blocksAt setting blocks).length
  mem_names : ∀ name,
    name ∈ series.metrics.keys ↔ ∃ block ∈ blocks, name ∈ block.metrics.keys
  count_eq : ∀ name statistics, series.metrics.get? name = some statistics →
    statistics.count =
      series.settings.map fun setting ↦ (observedAt name setting blocks).length
  mean_eq : ∀ name statistics, series.metrics.get? name = some statistics →
    statistics.mean =
      series.settings.map fun setting ↦ Binary64.mean (observedAt name setting blocks)
  deviation_eq : ∀ name statistics, series.metrics.get? name = some statistics →
    statistics.deviation =
      series.settings.map fun setting ↦ Binary64.deviation (observedAt name setting blocks)
  truncated_eq : series.truncated = 0

theorem Summarizes.statistics_unique {blocks : List Block} {left right : Series}
    (hleft : Summarizes blocks left) (hright : Summarizes blocks right)
    (hsettings : left.settings = right.settings) {name : String} {first second : Statistics}
    (hfirst : left.metrics.get? name = some first)
    (hsecond : right.metrics.get? name = some second) : first = second := by
  have hmean : first.mean = second.mean := by
    rw [hleft.mean_eq name first hfirst, hright.mean_eq name second hsecond, hsettings]
  have hdeviation : first.deviation = second.deviation := by
    rw [hleft.deviation_eq name first hfirst, hright.deviation_eq name second hsecond, hsettings]
  have hcount : first.count = second.count := by
    rw [hleft.count_eq name first hfirst, hright.count_eq name second hsecond, hsettings]
  cases first
  cases second
  rw [Statistics.mk.injEq]
  exact ⟨hmean, hdeviation, hcount⟩

/-- Blocks at points have at most one series that summarizes them. -/
theorem Summarizes.unique {blocks : List Block} {left right : Series}
    (hleft : Summarizes blocks left) (hright : Summarizes blocks right) : left = right := by
  have hsettings : left.settings = right.settings := by
    apply eq_of_ascending_of_mem_iff hleft.ascending hright.ascending
    intro setting
    rw [hleft.mem_settings, hright.mem_settings]
  have hblocks : left.blocks = right.blocks := by
    rw [hleft.blocks_eq, hright.blocks_eq, hsettings]
  have hmetrics : left.metrics = right.metrics := by
    apply SortedMap.ext_get?
    intro name
    have hnames : name ∈ left.metrics.keys ↔ name ∈ right.metrics.keys := by
      rw [hleft.mem_names, hright.mem_names]
    rw [SortedMap.mem_keys_iff, SortedMap.mem_keys_iff] at hnames
    cases hfirst : left.metrics.get? name with
    | none =>
      cases hsecond : right.metrics.get? name with
      | none => rfl
      | some second => simp [hfirst, hsecond] at hnames
    | some first =>
      obtain ⟨second, hsecond⟩ := hnames.1 ⟨first, hfirst⟩
      rw [hsecond, hleft.statistics_unique hright hsettings hfirst hsecond]
  cases left
  cases right
  rw [Series.mk.injEq]
  exact ⟨hsettings, hblocks, hmetrics, hleft.truncated_eq.trans hright.truncated_eq.symm⟩

/-- Blocks at points that share all metrics pass all checks. -/
theorem check_of_points {blocks : List Block} (hne : blocks ≠ [])
    (hpoints : ∀ block ∈ blocks, block.axis.isVector = false)
    (hnames : ∀ block ∈ blocks, ∀ name ∈ metricNames blocks, name ∈ block.metrics.keys)
    (alignment : Alignment) : check alignment blocks = .ok () := by
  have hkind := isVectorRun_eq hne hpoints
  refine check_eq_ok_iff.2 ⟨checkNames_eq_ok_iff.2 hnames, checkAxes_eq_ok_iff.2 ?_, ?_⟩
  · rw [hkind]
    exact hpoints
  · simp [hkind]

theorem collect_of_points {blocks : List Block}
    (h : ∀ block ∈ blocks, block.axis.isVector = false) :
    collect blocks =
      seriesOf (metricNames blocks) (group (blocks.flatMap (observations 0))) 0 := by
  by_cases hne : blocks = []
  · subst hne
    rfl
  · simp [collect, isVectorRun_eq hne h]

/-! ## Observations of blocks at points -/

theorem observations_of_point {block : Block} {setting : Setting}
    (h : block.axis = .point setting) (width : Nat) :
    observations width block = [⟨setting, block.metrics⟩] := by
  simp [observations, h]

theorem metricsAt_observations {blocks : List Block}
    (h : ∀ block ∈ blocks, block.axis.isVector = false) (setting : Setting) (width : Nat) :
    metricsAt setting (blocks.flatMap (observations width)) =
      (blocksAt setting blocks).map (·.metrics) := by
  induction blocks with
  | nil => rfl
  | cons block rest ih =>
    obtain ⟨hblock, hrest⟩ := List.forall_mem_cons.1 h
    obtain ⟨found, hfound⟩ := Axis.eq_point hblock
    have ih := ih hrest
    rw [List.flatMap_cons, observations_of_point hfound]
    simp only [metricsAt, blocksAt, List.singleton_append, List.filter_cons, hfound] at ih ⊢
    by_cases hsetting : found = setting
    · simp [hsetting, ih]
    · simp [hsetting, ih]

theorem valuesOf_map_metrics (name : String) (blocks : List Block) :
    valuesOf name (blocks.map (·.metrics)) = blocks.flatMap (·.valuesOf name) := by
  rw [valuesOf, List.flatMap_map]
  rfl

theorem exists_observation_iff {blocks : List Block}
    (h : ∀ block ∈ blocks, block.axis.isVector = false) (setting : Setting) (width : Nat) :
    (∃ observation ∈ blocks.flatMap (observations width), observation.setting = setting) ↔
      ∃ block ∈ blocks, block.axis = .point setting := by
  simp only [List.mem_flatMap]
  constructor
  · intro hfound
    rcases hfound with ⟨observation, ⟨block, hblock, hobservation⟩, rfl⟩
    obtain ⟨found, hfound⟩ := Axis.eq_point (h block hblock)
    rw [observations_of_point hfound, List.mem_singleton] at hobservation
    exact ⟨block, hblock, by rw [hfound, hobservation]⟩
  · intro hfound
    rcases hfound with ⟨block, hblock, hpoint⟩
    refine ⟨⟨setting, block.metrics⟩, ⟨block, hblock, ?_⟩, rfl⟩
    rw [observations_of_point hpoint, List.mem_singleton]

/-! ## The series -/

theorem summarizes_collect {blocks : List Block} (hne : blocks ≠ [])
    (h : ∀ block ∈ blocks, block.axis.isVector = false) :
    Summarizes blocks (collect blocks) := by
  have hvalues (name : String) (setting : Setting) :
      valuesOf name (metricsAt setting (blocks.flatMap (observations 0))) =
        observedAt name setting blocks := by
    rw [metricsAt_observations h, valuesOf_map_metrics, observedAt]
  have hobservations : blocks.flatMap (observations 0) ≠ [] := by
    obtain ⟨block, rest, rfl⟩ := List.exists_cons_of_ne_nil hne
    obtain ⟨setting, hsetting⟩ := Axis.eq_point (h block List.mem_cons_self)
    simp [observations_of_point hsetting]
  have hstatistics {name : String} {statistics : Statistics}
      (hget : (seriesOf (metricNames blocks) (group (blocks.flatMap (observations 0))) 0).metrics.get?
        name = some statistics) :
      statistics = .ofGroups ((group (blocks.flatMap (observations 0))).keys.map fun setting ↦
        observedAt name setting blocks) := by
    rw [get?_metrics_seriesOf_group, Option.ite_none_right_eq_some] at hget
    simpa [hvalues, eq_comm] using hget.2
  rw [collect_of_points h]
  constructor
  · exact SortedMap.ascending_keys _
  · intro setting
    exact mem_keys_group.trans (exists_observation_iff h setting 0)
  · rw [blocks_seriesOf_group]
    simp [metricsAt_observations h, seriesOf]
  · intro name
    rw [SortedMap.mem_keys_iff, get?_metrics_seriesOf_group, ← mem_metricNames]
    simp [hobservations]
  · intro name statistics hget
    simp [hstatistics hget, Statistics.ofGroups, seriesOf]
  · intro name statistics hget
    simp [hstatistics hget, Statistics.ofGroups, seriesOf]
  · intro name statistics hget
    simp [hstatistics hget, Statistics.ofGroups, seriesOf]
  · rfl

/-- The series of a run whose blocks are at points summarizes its blocks. -/
theorem summarizes_ofBlocks {alignment : Alignment} {blocks : List Block} {series : Series}
    (hne : blocks ≠ []) (hpoints : ∀ block ∈ blocks, block.axis.isVector = false)
    (h : Series.ofBlocks alignment blocks = .ok series) : Summarizes blocks series := by
  obtain ⟨-, rfl⟩ := (Series.ofBlocks_eq_ok_iff hne).1 h
  exact summarizes_collect hne hpoints

/-- Two blocks at a label around one at the number one, which holds no value. -/
def labelledRun : List Block :=
  [(Block.start (.point (.label "b"))).record "m" [⟨0x3ff0000000000000⟩, ⟨0x4000000000000000⟩],
   (Block.start (.point (.number ⟨0x3ff0000000000000⟩))).record "m" [],
   (Block.start (.point (.label "b"))).record "m" [⟨0x4008000000000000⟩]]

theorem summarizes_labelledRun :
    labelledRun ≠ [] ∧ (∀ block ∈ labelledRun, block.axis.isVector = false) ∧
      ∃ series, Series.ofBlocks .reject labelledRun = .ok series ∧
        series.settings = [.number ⟨0x3ff0000000000000⟩, .label "b"] ∧ series.blocks = [1, 2] ∧
        Summarizes labelledRun series := by
  have hne : labelledRun ≠ [] := by decide
  have hpoints : ∀ block ∈ labelledRun, block.axis.isVector = false := by decide
  have hseries : Series.ofBlocks .reject labelledRun = .ok (collect labelledRun) := rfl
  exact ⟨hne, hpoints, _, hseries, rfl, rfl, summarizes_ofBlocks hne hpoints hseries⟩

end Aggregation

end TrialSeries
