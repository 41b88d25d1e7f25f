import Mathlib.Algebra.BigOperators.Group.List.Lemmas
import Mathlib.Algebra.GroupWithZero.Nat
import TrialSeries.Proofs.SeriesFaults
import TrialSeries.Proofs.VectorSeries

/-!
# Counting values

A series counts the values behind each mean. Grouping counts every observed value at exactly one
setting, so the counts of a metric add up to the number of its values that were observed: all of them
in a block at a point, and one for each position that is kept of a vector. Without a cut position the
values that are not counted are therefore those beyond the end of the vector of their own block.
-/

namespace TrialSeries

/-- The number of all values of a metric that a series counts. -/
def Series.countOf (series : Series) (name : String) : Nat :=
  ((series.metric? name).map fun statistics ↦ statistics.count.sum).getD 0

/-- The number of values of a metric beyond the end of the vector of a block. -/
def Block.unpairedCount (block : Block) (name : String) : Nat :=
  match block.axis with
  | .point _ => 0
  | .positions positions => (block.valuesOf name).length - positions.length

namespace Aggregation

/-- The number of values that some blocks hold of a metric. -/
def recordedCount (name : String) (blocks : List Block) : Nat :=
  (blocks.map fun block ↦ (block.valuesOf name).length).sum

/-- The number of values of a metric beyond the vectors of their blocks. -/
def unpairedCount (name : String) (blocks : List Block) : Nat :=
  (blocks.map (·.unpairedCount name)).sum

/-- The number of values of a metric in an observation. -/
def Observation.valueCount (name : String) (observation : Observation) : Nat :=
  ((observation.metrics.get? name).getD []).length

/-! ## Counting group by group -/

/-- Each observation is counted at exactly one of the settings. -/
theorem sum_valueCount_at (name : String) {settings : List Setting} (hnodup : settings.Nodup)
    {observations : List Observation} (h : ∀ observation ∈ observations, observation.setting ∈ settings) :
    (settings.map fun setting ↦ (valuesOf name (metricsAt setting observations)).length).sum =
      (observations.map (Observation.valueCount name)).sum := by
  induction observations with
  | nil => simp [metricsAt, valuesOf]
  | cons first rest ih =>
    obtain ⟨hfirst, hrest⟩ := List.forall_mem_cons.1 h
    have hsplit (setting : Setting) :
        (valuesOf name (metricsAt setting (first :: rest))).length =
          (if first.setting = setting then Observation.valueCount name first else 0) +
            (valuesOf name (metricsAt setting rest)).length := by
      by_cases hsetting : first.setting = setting
      · simp [metricsAt, valuesOf, hsetting, Observation.valueCount]
      · simp [metricsAt, hsetting]
    have honce : (settings.map fun setting ↦
        if first.setting = setting then Observation.valueCount name first else 0).sum =
          Observation.valueCount name first := by
      rw [List.sum_map_eq_nsmul_single first.setting _ fun other hother _ ↦ if_neg (Ne.symm hother)]
      simp [List.count_eq_one_of_mem hnodup hfirst]
    simp only [hsplit, List.sum_map_add, honce, ih hrest, List.map_cons, List.sum_cons]

theorem countOf_seriesOf_group {names : List String} {name : String} (hname : name ∈ names)
    (observations : List Observation) (truncated : Nat) :
    (seriesOf names (group observations) truncated).countOf name =
      (observations.map (Observation.valueCount name)).sum := by
  rw [Series.countOf, Series.metric?, get?_metrics_seriesOf_group]
  by_cases hempty : observations = []
  · subst hempty
    rfl
  · have hsettings : ∀ observation ∈ observations,
        observation.setting ∈ (group observations).keys := by
      intro observation hobservation
      exact mem_keys_group.2 ⟨observation, hobservation, rfl⟩
    rw [if_pos ⟨hempty, hname⟩,
      ← sum_valueCount_at name (group observations).nodup_keys hsettings]
    simp [Statistics.ofGroups, Function.comp_def]

/-! ## Counting block by block -/

theorem sum_map_flatMap_observations (name : String) (width : Nat) (blocks : List Block) :
    ((blocks.flatMap (observations width)).map (Observation.valueCount name)).sum =
      (blocks.map fun block ↦
        ((observations width block).map (Observation.valueCount name)).sum).sum := by
  rw [List.map_flatMap, List.flatMap, List.sum_flatten, List.map_map]
  rfl

theorem sum_valueCount_of_point {block : Block} (h : block.axis.isVector = false) (name : String)
    (width : Nat) :
    ((observations width block).map (Observation.valueCount name)).sum =
      (block.valuesOf name).length := by
  obtain ⟨setting, hsetting⟩ := Axis.eq_point h
  rw [observations_of_point hsetting, List.map_singleton, List.sum_singleton]
  rfl

theorem valueCount_positionAt (block : Block) (name : String) (place : Nat) (position : Binary64) :
    Observation.valueCount name (positionAt block.metrics place position) =
      (((block.valuesOf name).drop place).take 1).length := by
  rw [Observation.valueCount, positionAt, SortedMap.get?_mapValues, Block.valuesOf]
  cases block.metrics.get? name <;> simp

/-- A vector that is cut to some width gives that many values of each metric that has them. -/
theorem sum_valueCount_of_vector {block : Block} {width : Nat} {name : String}
    (hvector : block.axis.isVector = true) (hwidth : width ≤ block.axis.length)
    (hvalues : width ≤ (block.valuesOf name).length) :
    ((observations width block).map (Observation.valueCount name)).sum = width := by
  cases haxis : block.axis with
  | point setting => simp [haxis, Axis.isVector] at hvector
  | positions values =>
    have hlength : (values.take width).length = width := by
      rw [haxis, Axis.length] at hwidth
      rw [List.length_take]
      omega
    have hone : ∀ pair ∈ (values.take width).zipIdx,
        Observation.valueCount name (positionAt block.metrics pair.2 pair.1) = 1 := by
      intro pair hpair
      have hplace : pair.2 < (values.take width).length := by
        simpa using (List.mem_zipIdx hpair).2.1
      rw [valueCount_positionAt, List.length_take, List.length_drop]
      omega
    calc
      ((observations width block).map (Observation.valueCount name)).sum =
          ((values.take width).zipIdx.map fun pair ↦
            Observation.valueCount name (positionAt block.metrics pair.2 pair.1)).sum := by
        simp only [observations, haxis, List.map_map]
        rfl
      _ = ((values.take width).zipIdx.map fun _ ↦ 1).sum := by
        rw [List.map_congr_left hone]
      _ = width := by
        simp [hlength]

/-! ## The counts of a series -/

theorem countOf_of_points {blocks : List Block} {name : String}
    (hpoints : ∀ block ∈ blocks, block.axis.isVector = false) (hname : name ∈ metricNames blocks) :
    (collect blocks).countOf name = recordedCount name blocks := by
  rw [collect_of_points hpoints, countOf_seriesOf_group hname, sum_map_flatMap_observations,
    recordedCount]
  apply congrArg
  apply List.map_congr_left
  intro block hblock
  exact sum_valueCount_of_point (hpoints block hblock) name 0

theorem shortest_le {blocks : List Block} : ∀ block ∈ blocks, shortest blocks ≤ block.axis.length := by
  intro block hblock
  exact (isLeast_shortest (List.ne_nil_of_mem hblock)).2 ⟨block, hblock, rfl⟩

theorem countOf_of_vectors {blocks : List Block} {name : String}
    (hvectors : ∀ block ∈ blocks, block.axis.isVector = true)
    (hvalues : ∀ block ∈ blocks, shortest blocks ≤ (block.valuesOf name).length)
    (hname : name ∈ metricNames blocks) :
    (collect blocks).countOf name = (blocks.map fun _ ↦ shortest blocks).sum := by
  obtain ⟨block, hblock, -⟩ := mem_metricNames.1 hname
  rw [collect_of_vectors (List.ne_nil_of_mem hblock) hvectors, countOf_seriesOf_group hname,
    sum_map_flatMap_observations]
  apply congrArg
  apply List.map_congr_left
  intro block hblock
  exact sum_valueCount_of_vector (hvectors block hblock) (shortest_le block hblock)
    (hvalues block hblock)

theorem surplus_eq_sum (blocks : List Block) :
    surplus blocks = (blocks.map fun block ↦ block.axis.length - shortest blocks).sum := by
  rw [surplus, lengths, List.foldr_map, List.sum_eq_foldr, List.foldr_map]

/-- Nothing is cut exactly if all axes have the same length. -/
theorem surplus_eq_zero_iff {blocks : List Block} :
    surplus blocks = 0 ↔ ∀ block ∈ blocks, block.axis.length = shortest blocks := by
  rw [surplus_eq_sum, List.sum_eq_zero_iff_forall_eq_nat]
  simp only [List.forall_mem_map]
  constructor
  · intro h block hblock
    have hle := shortest_le block hblock
    have hzero := h block hblock
    omega
  · intro h block hblock
    rw [h block hblock, Nat.sub_self]

/-- In a series for which nothing was cut, the counts of a metric and the values beyond the vectors
of their own blocks make up all values that were recorded. -/
theorem countOf_add_unpairedCount {alignment : Alignment} {blocks : List Block} {series : Series}
    (h : Series.ofBlocks alignment blocks = .ok series) (huncut : series.truncated = 0)
    {name : String} (hname : ∃ block ∈ blocks, name ∈ block.metrics.keys) :
    series.countOf name + unpairedCount name blocks = recordedCount name blocks := by
  have hne : blocks ≠ [] := by
    obtain ⟨block, hblock, -⟩ := hname
    exact List.ne_nil_of_mem hblock
  obtain ⟨hcheck, rfl⟩ := (Series.ofBlocks_eq_ok_iff hne).1 h
  have hkinds := checkAxes_eq_ok_iff.1 (check_eq_ok_iff.1 hcheck).2.1
  have hmem := mem_metricNames.2 hname
  cases hvector : isVectorRun blocks with
  | false =>
    rw [hvector] at hkinds
    have hpaired : unpairedCount name blocks = 0 := by
      rw [unpairedCount, List.sum_eq_zero_iff_forall_eq_nat]
      simp only [List.forall_mem_map]
      intro block hblock
      obtain ⟨setting, hsetting⟩ := Axis.eq_point (hkinds block hblock)
      rw [Block.unpairedCount, hsetting]
    rw [countOf_of_points hkinds hmem, hpaired, Nat.add_zero]
  | true =>
    rw [hvector] at hkinds
    have hvalues := (names_and_values_of_check hne hkinds hcheck).2
    have hlengths : ∀ block ∈ blocks, block.axis.length = shortest blocks := by
      rw [collect_of_vectors hne hkinds] at huncut
      exact surplus_eq_zero_iff.1 huncut
    rw [countOf_of_vectors hkinds (fun block hblock ↦ hvalues block hblock name hmem) hmem,
      unpairedCount, ← List.sum_map_add, recordedCount]
    apply congrArg
    apply List.map_congr_left
    intro block hblock
    have hlength := hlengths block hblock
    have hle := hvalues block hblock name hmem
    cases haxis : block.axis with
    | point setting => simpa [haxis, Axis.isVector] using hkinds block hblock
    | positions positions =>
      simp only [haxis, Axis.length] at hlength
      simp only [Block.unpairedCount, haxis]
      omega

/-- A vector of one position with two values. -/
def overlongRun : List Block :=
  [(Block.start (.positions [⟨0x3ff0000000000000⟩])).record "m"
    [⟨0x3ff0000000000000⟩, ⟨0x4000000000000000⟩]]

theorem countOf_add_unpairedCount_overlongRun :
    ∃ series, Series.ofBlocks .reject overlongRun = .ok series ∧ series.truncated = 0 ∧
      (∃ block ∈ overlongRun, "m" ∈ block.metrics.keys) ∧
      unpairedCount "m" overlongRun = 1 ∧
      series.countOf "m" + unpairedCount "m" overlongRun = recordedCount "m" overlongRun := by
  have hseries : Series.ofBlocks .reject overlongRun = .ok (collect overlongRun) := rfl
  have huncut : (collect overlongRun).truncated = 0 := rfl
  have hname : ∃ block ∈ overlongRun, "m" ∈ block.metrics.keys := by decide
  exact ⟨_, hseries, huncut, hname, rfl, countOf_add_unpairedCount hseries huncut hname⟩

/-- Values beyond a vector are in no count, although nothing was cut. -/
theorem not_forall_countOf_eq_recordedCount :
    ¬ ∀ (alignment : Alignment) (blocks : List Block) (series : Series),
      Series.ofBlocks alignment blocks = .ok series → series.truncated = 0 →
        ∀ name, (∃ block ∈ blocks, name ∈ block.metrics.keys) →
          series.countOf name = recordedCount name blocks := by
  intro h
  have hcount : (collect overlongRun).countOf "m" = recordedCount "m" overlongRun :=
    h .reject overlongRun (collect overlongRun) rfl rfl "m" (by decide)
  exact absurd hcount (by decide)

end Aggregation

end TrialSeries
