import TrialSeries.Aggregation
import TrialSeries.Proofs.MapLookup

/-!
# Groups of observations

Grouping loses no observation and moves none: the group at a setting holds the metrics of exactly
the observations at that setting, in their order. A series of groups is described by its settings
and by what was observed at each of them.
-/

namespace TrialSeries.Aggregation

/-- The metrics of the observations at a setting, in the order of the observations. -/
def metricsAt (setting : Setting) (observations : List Observation) : List Metrics :=
  (observations.filter (·.setting = setting)).map (·.metrics)

/-! ## Groups -/

theorem group_append_singleton (observations : List Observation) (last : Observation) :
    group (observations ++ [last]) =
      (group observations).alter last.setting fun old ↦ old.getD [] ++ [last.metrics] := by
  rw [group, List.foldl_append]
  rfl

theorem metricsAt_append_singleton (setting : Setting) (observations : List Observation)
    (last : Observation) :
    metricsAt setting (observations ++ [last]) =
      metricsAt setting observations ++ if setting = last.setting then [last.metrics] else [] := by
  rw [metricsAt, List.filter_append, List.map_append, ← metricsAt]
  by_cases hsetting : last.setting = setting
  · simp [hsetting]
  · simp [hsetting, Ne.symm hsetting]

theorem getD_get?_group (observations : List Observation) (setting : Setting) :
    ((group observations).get? setting).getD [] = metricsAt setting observations := by
  induction observations using List.reverseRec with
  | nil => rfl
  | append_singleton observations last ih =>
    rw [group_append_singleton, SortedMap.get?_alter, metricsAt_append_singleton, ← ih]
    by_cases hsetting : setting = last.setting
    · simp [hsetting]
    · simp [hsetting]

theorem mem_keys_group {observations : List Observation} {setting : Setting} :
    setting ∈ (group observations).keys ↔
      ∃ observation ∈ observations, observation.setting = setting := by
  induction observations using List.reverseRec with
  | nil => simp [group, SortedMap.mem_keys_iff]
  | append_singleton observations last ih =>
    rw [group_append_singleton, SortedMap.mem_keys_alter, ih]
    simp [List.mem_append, or_and_right, exists_or, or_comm, eq_comm]

theorem entries_group_eq_nil_iff {observations : List Observation} :
    (group observations).entries = [] ↔ observations = [] := by
  rw [← SortedMap.keys_eq_nil_iff, List.eq_nil_iff_forall_not_mem]
  constructor
  · intro h
    rw [List.eq_nil_iff_forall_not_mem]
    intro observation hmem
    exact h observation.setting (mem_keys_group.2 ⟨observation, hmem, rfl⟩)
  · intro hnil setting hmem
    subst hnil
    simpa using mem_keys_group.1 hmem

/-- Walking over the groups is walking over the settings and what was observed at each. -/
theorem map_values_group {β : Type} (observations : List Observation) (f : List Metrics → β) :
    (group observations).values.map f =
      (group observations).keys.map fun setting ↦ f (metricsAt setting observations) := by
  apply SortedMap.map_values
  intro setting metrics hmetrics
  rw [← getD_get?_group, hmetrics]
  rfl

/-! ## Series of groups -/

variable {names : List String} {observations : List Observation} {truncated : Nat}

theorem blocks_seriesOf_group :
    (seriesOf names (group observations) truncated).blocks =
      (group observations).keys.map fun setting ↦ (metricsAt setting observations).length :=
  map_values_group observations List.length

theorem get?_metrics_seriesOf_group (name : String) :
    (seriesOf names (group observations) truncated).metrics.get? name =
      if observations ≠ [] ∧ name ∈ names then
        some (.ofGroups ((group observations).keys.map fun setting ↦
          valuesOf name (metricsAt setting observations)))
      else none := by
  simp only [seriesOf, entries_group_eq_nil_iff, map_values_group]
  by_cases hempty : observations = []
  · simp [hempty]
  · simp [hempty, SortedMap.get?_ofList_map]

end TrialSeries.Aggregation
