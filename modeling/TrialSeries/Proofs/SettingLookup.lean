import TrialSeries.Proofs.SeriesRows

/-!
# Looking up a setting

The settings of a series ascend strictly, so halving them finds a setting where it stands and finds
none that is not there. A lookup in the series of a run therefore gives what is listed at the one
place of the setting, and every setting at which a block was recorded has such a place.
-/

namespace TrialSeries.Series

/-! ## Searching an ascending list -/

section Search

variable {settings : List Setting} {setting : Setting}
  (h : settings.Pairwise fun left right ↦ compare left right = .lt)

include h

theorem compare_of_lt {place other : Nat} {found : Setting}
    (hplace : settings[place]? = some setting) (hother : settings[other]? = some found)
    (hlt : place < other) : compare setting found = .lt := by
  obtain ⟨hfirst, rfl⟩ := List.getElem?_eq_some_iff.1 hplace
  obtain ⟨hsecond, rfl⟩ := List.getElem?_eq_some_iff.1 hother
  exact List.pairwise_iff_getElem.1 h place other hfirst hsecond hlt

/-- What stands in the middle of a range tells on which side of it a setting stands. -/
theorem compare_eq_gt_iff {place middle : Nat} {found : Setting}
    (hplace : settings[place]? = some setting) (hmiddle : settings[middle]? = some found) :
    compare found setting = .gt ↔ place < middle := by
  rcases Nat.lt_trichotomy place middle with hlt | rfl | hgt
  · have hcompare := compare_of_lt h hplace hmiddle hlt
    simp [Std.OrientedCmp.gt_iff_lt.2 hcompare, hlt]
  · rw [hplace, Option.some_inj] at hmiddle
    simp [hmiddle, Std.ReflCmp.compare_self]
  · have hcompare := compare_of_lt h hmiddle hplace hgt
    simp [hcompare, Nat.lt_asymm hgt]

/-- A range that holds the place of a setting narrows down to that place. -/
theorem searchRange_eq {place : Nat} (hplace : settings[place]? = some setting) (base size : Nat)
    (hbase : base ≤ place) (hsize : place < base + size)
    (hlength : base + size ≤ settings.length) :
    searchRange settings setting base size = place := by
  induction size using Nat.strongRecOn generalizing base with
  | ind size ih =>
    unfold searchRange
    split
    · omega
    · rename_i hlarge
      have hmiddle : settings[base + size / 2]? = some settings[base + size / 2] :=
        List.getElem?_eq_getElem (by omega)
      dsimp only
      rw [hmiddle]
      dsimp only
      -- whichever half is taken, the place stays within it
      split
      · rename_i hgreater
        have hleft := (compare_eq_gt_iff h hplace hmiddle).1 hgreater
        apply ih _ (by omega) base hbase <;> omega
      · rename_i hgreater
        have hright : ¬ place < base + size / 2 := by
          rwa [← compare_eq_gt_iff h hplace hmiddle]
        apply ih _ (by omega) (base + size / 2) <;> omega

theorem place?_eq_some_iff {place : Nat} :
    place? settings setting = some place ↔ settings[place]? = some setting := by
  constructor
  · intro hplace
    unfold place? at hplace
    dsimp only at hplace
    split at hplace
    · rename_i found hfound
      split at hplace
      · rename_i hequal
        rw [Option.some_inj] at hplace
        rw [← hplace, hfound, Std.LawfulEqCmp.eq_of_compare hequal]
      · cases hplace
    · cases hplace
  · intro hplace
    have hlength := (List.getElem?_eq_some_iff.1 hplace).1
    have hsearch : searchRange settings setting 0 settings.length = place :=
      searchRange_eq h hplace 0 settings.length (by omega) (by omega) (by omega)
    simp [place?, hsearch, hplace, Std.ReflCmp.compare_self]

theorem place?_eq_none_iff : place? settings setting = none ↔ setting ∉ settings := by
  rw [Option.eq_none_iff_forall_ne_some, List.mem_iff_getElem?, not_exists]
  exact forall_congr' fun place ↦ not_congr (place?_eq_some_iff h)

theorem place_unique {place other : Nat} (hplace : settings[place]? = some setting)
    (hother : settings[other]? = some setting) : other = place := by
  rw [← place?_eq_some_iff h] at hplace hother
  rw [hplace, Option.some_inj] at hother
  exact hother.symm

end Search

/-! ## Lookups in a series -/

/-- What is listed in a series under a name and at a setting: the mean and the deviation in the one
place whose setting compares equal, or nothing if there is no such place or no such metric. -/
inductive Lists (series : Series) (name : String) (setting : Setting) :
    Option (Binary64 × Binary64) → Prop where
  | entry {place : Nat} {found : Setting} {statistics : Statistics} {mean deviation : Binary64}
    (hfound : series.settings[place]? = some found) (hequal : compare found setting = .eq)
    (hunique : ∀ other found, series.settings[other]? = some found →
      compare found setting = .eq → other = place)
    (hmetric : series.metric? name = some statistics)
    (hmean : statistics.mean[place]? = some mean)
    (hdeviation : statistics.deviation[place]? = some deviation) :
    Lists series name setting (some (mean, deviation))
  | noSetting (hnone : ∀ found ∈ series.settings, compare found setting ≠ .eq) :
    Lists series name setting none
  | noMetric (hnone : series.metric? name = none) : Lists series name setting none

variable {alignment : Alignment} {blocks : List Block} {series : Series}

theorem ascending_ofBlocks (h : ofBlocks alignment blocks = .ok series) :
    series.settings.Pairwise fun left right ↦ compare left right = .lt := by
  obtain ⟨names, observations, truncated, rfl⟩ := Aggregation.exists_seriesOf_group h
  exact SortedMap.ascending_keys _

/-- Every metric of an aligned series has a mean and a deviation in the place of every setting. -/
theorem IsAligned.statisticsAt?_eq (h : series.IsAligned)
    (hascending : series.settings.Pairwise fun left right ↦ compare left right = .lt)
    {name : String} {setting : Setting} {place : Nat} {statistics : Statistics}
    (hplace : series.settings[place]? = some setting)
    (hmetric : series.metric? name = some statistics) :
    ∃ mean deviation, statistics.mean[place]? = some mean ∧
      statistics.deviation[place]? = some deviation ∧
      series.statisticsAt? name setting = some (mean, deviation) := by
  have hvalue : statistics ∈ series.metrics.values := SortedMap.mem_values_iff.2 ⟨name, hmetric⟩
  have hlength : place < series.length := (List.getElem?_eq_some_iff.1 hplace).1
  have hmeans : place < statistics.mean.length := by rwa [h.mean_length statistics hvalue]
  have hdeviations : place < statistics.deviation.length := by
    rwa [h.deviation_length statistics hvalue]
  have hmean := List.getElem?_eq_getElem hmeans
  have hdeviation := List.getElem?_eq_getElem hdeviations
  refine ⟨_, _, hmean, hdeviation, ?_⟩
  rw [statisticsAt?, (place?_eq_some_iff hascending).2 hplace, hmetric]
  simp [hmean, hdeviation]

theorem lists_statisticsAt? (h : series.IsAligned)
    (hascending : series.settings.Pairwise fun left right ↦ compare left right = .lt)
    (name : String) (setting : Setting) :
    series.Lists name setting (series.statisticsAt? name setting) := by
  cases hplace : place? series.settings setting with
  | none =>
    have habsent : series.statisticsAt? name setting = none := by
      rw [statisticsAt?, hplace]
      rfl
    rw [habsent]
    apply Lists.noSetting
    intro found hfound hequal
    rw [Std.LawfulEqCmp.eq_of_compare hequal] at hfound
    exact (place?_eq_none_iff hascending).1 hplace hfound
  | some place =>
    cases hmetric : series.metric? name with
    | none =>
      have habsent : series.statisticsAt? name setting = none := by
        rw [statisticsAt?, hplace, hmetric]
        rfl
      rw [habsent]
      exact .noMetric hmetric
    | some statistics =>
      have hfound := (place?_eq_some_iff hascending).1 hplace
      obtain ⟨mean, deviation, hmean, hdeviation, hanswer⟩ :=
        h.statisticsAt?_eq hascending hfound hmetric
      rw [hanswer]
      refine .entry hfound Std.ReflCmp.compare_self ?_ hmetric hmean hdeviation
      intro other found hother hequal
      rw [Std.LawfulEqCmp.eq_of_compare hequal] at hother
      exact place_unique hascending hfound hother

/-! ## Series of runs -/

/-- Where one block of a run is recorded at a point, all are. -/
theorem isVector_eq_false_of_point (h : ofBlocks alignment blocks = .ok series) {block : Block}
    {setting : Setting} (hblock : block ∈ blocks) (hpoint : block.axis = .point setting) :
    ∀ block ∈ blocks, block.axis.isVector = false := by
  have hne : blocks ≠ [] := List.ne_nil_of_mem hblock
  obtain ⟨hcheck, -⟩ := (ofBlocks_eq_ok_iff hne).1 h
  have hkind := Aggregation.checkAxes_eq_ok_iff.1 (Aggregation.check_eq_ok_iff.1 hcheck).2.1
  intro other hother
  rw [hkind other hother, ← hkind block hblock, hpoint]
  rfl

/-- A lookup in the series of a run gives what is listed there, and finds every setting at which a
block was recorded, under every metric of the run. -/
theorem lists_statisticsAt?_ofBlocks (h : ofBlocks alignment blocks = .ok series) (name : String)
    (setting : Setting) :
    series.Lists name setting (series.statisticsAt? name setting) ∧
      ((∃ block ∈ blocks, block.axis = .point setting) →
        (∃ place, place? series.settings setting = some place ∧
          series.settings[place]? = some setting) ∧
        ((∃ block ∈ blocks, name ∈ block.metrics.keys) →
          ∃ mean deviation, series.statisticsAt? name setting = some (mean, deviation))) := by
  have hascending := ascending_ofBlocks h
  have haligned := isAligned_ofBlocks h
  refine ⟨lists_statisticsAt? haligned hascending name setting, ?_⟩
  intro hrecorded
  obtain ⟨block, hblock, hpoint⟩ := hrecorded
  have hsummary := Aggregation.summarizes_of_points (isVector_eq_false_of_point h hblock hpoint) h
  have hsetting := (hsummary.mem_settings setting).2 ⟨block, hblock, hpoint⟩
  obtain ⟨place, hplace⟩ := List.mem_iff_getElem?.1 hsetting
  refine ⟨⟨place, (place?_eq_some_iff hascending).2 hplace, hplace⟩, ?_⟩
  intro hname
  obtain ⟨statistics, hmetric⟩ := SortedMap.mem_keys_iff.1 ((hsummary.mem_names name).2 hname)
  obtain ⟨mean, deviation, -, -, hanswer⟩ := haligned.statisticsAt?_eq hascending hplace hmetric
  exact ⟨mean, deviation, hanswer⟩

theorem lists_statisticsAt?_labelledRun :
    ∃ series, ofBlocks .reject Aggregation.labelledRun = .ok series ∧
      series.statisticsAt? "m" (.label "a") = none ∧
      (∃ place, place? series.settings (.label "b") = some place ∧
        series.settings[place]? = some (.label "b")) ∧
      ∃ mean deviation, series.statisticsAt? "m" (.label "b") = some (mean, deviation) := by
  have hseries : ofBlocks .reject Aggregation.labelledRun =
      .ok (Aggregation.collect Aggregation.labelledRun) := rfl
  have habsent : ∀ found ∈ (Aggregation.collect Aggregation.labelledRun).settings,
      compare found (.label "a") ≠ .eq := by decide
  have hnone := (lists_statisticsAt?_ofBlocks hseries "m" (.label "a")).1
  obtain ⟨hplace, hfound⟩ := (lists_statisticsAt?_ofBlocks hseries "m" (.label "b")).2
    ⟨_, List.mem_cons_self, rfl⟩
  refine ⟨_, hseries, ?_, hplace, hfound ⟨_, List.mem_cons_self, by decide⟩⟩
  generalize statisticsAt? _ "m" (.label "a") = answer at hnone ⊢
  cases hnone with
  | entry hfound hequal => exact absurd hequal (habsent _ (List.mem_of_getElem? hfound))
  | noSetting => rfl
  | noMetric => rfl

end TrialSeries.Series
