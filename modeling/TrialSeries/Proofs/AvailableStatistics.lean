import TrialSeries.Proofs.MarkdownTables
import TrialSeries.Proofs.SpecialValues
import TrialSeries.Proofs.TextLines

/-!
# Statistics that are not available

The mean and the deviation of a metric are NaN if and only if there are no values, and a table shows
this and nothing else as not available. Sums may overflow, since an infinity that meets finite values
stays as it is, and the mean from which the deviation is taken may be infinite: the squared distances
from it are infinite too, and their sum never meets an infinity of the other sign.
-/

namespace TrialSeries

open Float.Model Float.Model.UnpackedFloat

namespace Binary64

section Values

variable {values : List Binary64}

/-! ## Sums -/

/-- Finite values that are added to a number leave a number. -/
theorem foldl_add_ne_notANumber (hvalues : ∀ value ∈ values, value.isFinite = true)
    {start : Binary64} (hstart : unpacked start ≠ .notANumber) :
    unpacked (values.foldl (· + ·) start) ≠ .notANumber := by
  induction values generalizing start with
  | nil => exact hstart
  | cons value values ih =>
    obtain ⟨hvalue, hvalues⟩ := List.forall_mem_cons.1 hvalues
    exact ih hvalues (unpacked_add_ne_notANumber hstart hvalue)

theorem isNonnegative_foldl_add (hvalues : ∀ value ∈ values, IsNonnegative (unpacked value))
    {start : Binary64} (hstart : IsNonnegative (unpacked start)) :
    IsNonnegative (unpacked (values.foldl (· + ·) start)) := by
  induction values generalizing start with
  | nil => exact hstart
  | cons value values ih =>
    obtain ⟨hvalue, hvalues⟩ := List.forall_mem_cons.1 hvalues
    exact ih hvalues (isNonnegative_unpacked_add hstart hvalue)

theorem sum_ne_notANumber (hvalues : ∀ value ∈ values, value.isFinite = true) :
    unpacked (sum values) ≠ .notANumber :=
  foldl_add_ne_notANumber hvalues HasSign.zero.ne_notANumber

theorem isNonnegative_sum (hvalues : ∀ value ∈ values, IsNonnegative (unpacked value)) :
    IsNonnegative (unpacked (sum values)) :=
  isNonnegative_foldl_add hvalues .negativeZero

/-! ## Mean and deviation -/

theorem mean_ne_notANumber (hne : values ≠ []) (hvalues : ∀ value ∈ values, value.isFinite = true)
    (hlength : values.length < UInt64.size) : unpacked (mean values) ≠ .notANumber := by
  have hcount : values.length ≠ 0 := mt List.length_eq_zero_iff.1 hne
  rw [mean, if_neg hne]
  exact unpacked_div_ofNat_ne_notANumber (sum_ne_notANumber hvalues) hcount hlength

/-- The squared distances from the mean are nonnegative, be they infinite or not. -/
theorem deviation_ne_notANumber (hne : values ≠ [])
    (hvalues : ∀ value ∈ values, value.isFinite = true) (hlength : values.length < UInt64.size) :
    unpacked (deviation values) ≠ .notANumber := by
  have hcount : values.length ≠ 0 := mt List.length_eq_zero_iff.1 hne
  have hmean := mean_ne_notANumber hne hvalues hlength
  have hdistances : ∀ distance ∈ values.map (squaredDistance (mean values)),
      IsNonnegative (unpacked distance) := by
    intro distance hdistance
    obtain ⟨value, hvalue, rfl⟩ := List.mem_map.1 hdistance
    exact isNonnegative_unpacked_sub_mul_self (hvalues value hvalue) hmean
  rw [deviation, if_neg hne]
  exact unpacked_sqrt_ne_notANumber
    (isNonnegative_unpacked_div_ofNat (isNonnegative_sum hdistances) hcount hlength)

theorem isNaN_mean_iff (hvalues : ∀ value ∈ values, value.isFinite = true)
    (hlength : values.length < UInt64.size) : (mean values).isNaN = true ↔ values.length = 0 := by
  rw [isNaN_iff, List.length_eq_zero_iff]
  constructor
  · intro hnan
    by_contra hne
    exact mean_ne_notANumber hne hvalues hlength hnan
  · rintro rfl
    rfl

theorem isNaN_deviation_iff (hvalues : ∀ value ∈ values, value.isFinite = true)
    (hlength : values.length < UInt64.size) :
    (deviation values).isNaN = true ↔ values.length = 0 := by
  rw [isNaN_iff, List.length_eq_zero_iff]
  constructor
  · intro hnan
    by_contra hne
    exact deviation_ne_notANumber hne hvalues hlength hnan
  · rintro rfl
    rfl

end Values

end Binary64

/-! ## Values of a series -/

namespace Aggregation

theorem subset_valuesOf_of_mem_observations {width : Nat} {block : Block}
    {observation : Observation} (h : observation ∈ observations width block) (name : String) :
    (observation.metrics.get? name).getD [] ⊆ block.valuesOf name := by
  unfold observations at h
  split at h
  · rw [List.mem_singleton.1 h]
    exact List.Subset.refl _
  · obtain ⟨⟨position, place⟩, -, rfl⟩ := List.mem_map.1 h
    simp only [positionAt, SortedMap.get?_mapValues, Block.valuesOf]
    cases block.metrics.get? name with
    | none => exact List.Subset.refl _
    | some values =>
      exact List.Subset.trans (List.take_subset _ _) (List.drop_subset _ _)

/-- What is observed at a setting are values of the blocks. -/
theorem exists_block_of_mem_valuesOf {width : Nat} {blocks : List Block} {setting : Setting}
    {name : String} {value : Binary64}
    (h : value ∈ valuesOf name (metricsAt setting (blocks.flatMap (observations width)))) :
    ∃ block ∈ blocks, value ∈ block.valuesOf name := by
  obtain ⟨metrics, hmetrics, hvalue⟩ := List.mem_flatMap.1 h
  obtain ⟨observation, hobservation, rfl⟩ := List.mem_map.1 hmetrics
  obtain ⟨block, hblock, hobserved⟩ := List.mem_flatMap.1 (List.mem_of_mem_filter hobservation)
  exact ⟨block, hblock, subset_valuesOf_of_mem_observations hobserved name hvalue⟩

end Aggregation

namespace Series

variable {alignment : Alignment} {blocks : List Block} {series : Series}

/-- The statistics of a metric are those of groups of values of the blocks. -/
theorem exists_groups_of_mem_values (h : Series.ofBlocks alignment blocks = .ok series)
    {statistics : Statistics} (hmem : statistics ∈ series.metrics.values) :
    ∃ name groups, statistics = .ofGroups groups ∧
      ∀ group ∈ groups, ∀ value ∈ group, ∃ block ∈ blocks, value ∈ block.valuesOf name := by
  by_cases hne : blocks = []
  · subst hne
    cases h
    cases hmem
  · obtain ⟨-, rfl⟩ := (ofBlocks_eq_ok_iff hne).1 h
    obtain ⟨names, width, truncated, hcollect⟩ : ∃ names width truncated,
        Aggregation.collect blocks = Aggregation.seriesOf names
          (Aggregation.group (blocks.flatMap (Aggregation.observations width))) truncated := by
      rw [Aggregation.collect]
      cases Aggregation.isVectorRun blocks with
      | false => exact ⟨_, _, _, rfl⟩
      | true => exact ⟨_, _, _, rfl⟩
    rw [hcollect] at hmem
    obtain ⟨name, hstatistics⟩ := Aggregation.ofGroups_of_mem_values hmem
    refine ⟨name, _, hstatistics, ?_⟩
    intro group hgroup value hvalue
    obtain ⟨setting, -, rfl⟩ := List.mem_map.1 hgroup
    exact Aggregation.exists_block_of_mem_valuesOf hvalue

end Series

namespace Report.Markdown

/-! ## Cells -/

/-- A text says that something is not available. -/
def ShowsUnavailable (text : String) : Prop := "n/a".toList <:+: text.toList

instance (text : String) : Decidable (ShowsUnavailable text) := inferInstanceAs (Decidable (_ <:+: _))

section Cells

variable {precision place count : Nat} {mean deviation : Binary64} {statistics : Statistics}

theorem slash_notMem_numberText {value : Binary64} (h : value.isNaN = false) :
    '/' ∉ (numberText precision value).toList := by
  rw [numberText, if_neg (by simp [h])]
  exact Text.notMem_of_forall_isNumeral (by decide) Binary64.isNumeral_of_mem_fixed

theorem slash_notMem_cellText (hmean : mean.isNaN = false) (hdeviation : deviation.isNaN = false) :
    '/' ∉ (cellText precision mean deviation count).toList := by
  have hcount : '/' ∉ Nat.toDigits 10 count :=
    Text.notMem_of_forall_isNumeral (by decide) isNumeral_of_mem_toDigits
  simp +decide [cellText, slash_notMem_numberText hmean, slash_notMem_numberText hdeviation, hcount]

/-- A cell says that something is not available if and only if it has NaN in it. -/
theorem showsUnavailable_cellText_iff :
    ShowsUnavailable (cellText precision mean deviation count) ↔
      mean.isNaN = true ∨ deviation.isNaN = true := by
  constructor
  · intro hshown
    by_contra hnumbers
    rw [not_or, Bool.not_eq_true, Bool.not_eq_true] at hnumbers
    exact slash_notMem_cellText hnumbers.1 hnumbers.2 (hshown.subset (by decide))
  · intro hnan
    rcases hnan with hnan | hnan
    · refine ⟨" ".toList, (" ± " ++ numberText precision deviation ++ " (n=" ++ toString count ++
        ") |").toList, ?_⟩
      simp [cellText, numberText, hnan]
    · refine ⟨(" " ++ numberText precision mean ++ " ± ").toList,
        (" (n=" ++ toString count ++ ") |").toList, ?_⟩
      simp [cellText, numberText, hnan]

theorem eq_cellText_of_cell (hmean : statistics.mean[place]? = some mean)
    (hdeviation : statistics.deviation[place]? = some deviation)
    (hcount : statistics.count[place]? = some count) {text : String}
    (h : cell precision place statistics = .ok text) :
    text = cellText precision mean deviation count := by
  cases isCell_of_cell h with
  | counted hmean' hdeviation' hcount' =>
    cases hmean.symm.trans hmean'
    cases hdeviation.symm.trans hdeviation'
    cases hcount.symm.trans hcount'
    rfl
  | uncounted _ _ hshort => cases hcount.symm.trans (List.getElem?_eq_none hshort)

theorem exists_cell_eq_ok (hprecision : precision ≤ maxPrecision)
    (hmean : place < statistics.mean.length) (hdeviation : place < statistics.deviation.length) :
    ∃ text, cell precision place statistics = .ok text := by
  cases hcell : cell precision place statistics with
  | ok text => exact ⟨text, rfl⟩
  | error error =>
    cases fault_of_cell hcell with
    | missingEntry hshort => omega
    | precisionOutOfRange hbeyond => omega

end Cells

/-- What a series has at one place of a metric, and what a table shows of it. -/
structure TellsAvailability (statistics : Statistics) (place : Nat) (mean deviation : Binary64)
    (count : Nat) : Prop where
  mean_eq : statistics.mean[place]? = some mean
  deviation_eq : statistics.deviation[place]? = some deviation
  count_eq : statistics.count[place]? = some count
  isNaN_mean : mean.isNaN = true ↔ count = 0
  isNaN_deviation : deviation.isNaN = true ↔ count = 0
  exists_cell : ∀ precision ≤ maxPrecision, ∃ text, cell precision place statistics = .ok text
  cell_shows : ∀ precision text, cell precision place statistics = .ok text →
    text = cellText precision mean deviation count ∧ (ShowsUnavailable text ↔ count = 0)

/-- In a series of finite values, a mean is NaN and so is a deviation where a metric has no values,
and nowhere else, whatever overflows on the way; and the cells of a table show nothing else as not
available. Counts are machine words; a count far beyond them would be infinite as a number, and an
infinite sum divided by it NaN. -/
theorem tellsAvailability_ofBlocks {alignment : Alignment} {blocks : List Block} {series : Series}
    (hseries : Series.ofBlocks alignment blocks = .ok series)
    (hfinite : ∀ block ∈ blocks, ∀ name, ∀ value ∈ block.valuesOf name, value.isFinite = true)
    {statistics : Statistics} (hmem : statistics ∈ series.metrics.values)
    (hwords : ∀ count ∈ statistics.count, count < UInt64.size) {place : Nat}
    (hplace : place < series.length) :
    ∃ mean deviation count, TellsAvailability statistics place mean deviation count := by
  have haligned := Series.isAligned_ofBlocks hseries
  obtain ⟨name, groups, rfl, hgroups⟩ := Series.exists_groups_of_mem_values hseries hmem
  have hlength : groups.length = series.length := by
    simpa [Statistics.ofGroups] using haligned.mean_length _ hmem
  obtain ⟨values, hvalues⟩ : ∃ values, groups[place]? = some values :=
    ⟨_, List.getElem?_eq_getElem (hlength ▸ hplace)⟩
  have hfound : values ∈ groups := List.mem_of_getElem? hvalues
  have hnumbers : ∀ value ∈ values, value.isFinite = true := by
    intro value hvalue
    obtain ⟨block, hblock, hrecorded⟩ := hgroups values hfound value hvalue
    exact hfinite block hblock name value hrecorded
  have hcount : values.length < UInt64.size := hwords _ (List.mem_map_of_mem hfound)
  have hmean := Binary64.isNaN_mean_iff hnumbers hcount
  have hdeviation := Binary64.isNaN_deviation_iff hnumbers hcount
  have hentries : (Statistics.ofGroups groups).mean[place]? = some (Binary64.mean values) ∧
      (Statistics.ofGroups groups).deviation[place]? = some (Binary64.deviation values) ∧
      (Statistics.ofGroups groups).count[place]? = some values.length := by
    simp [Statistics.ofGroups, hvalues]
  obtain ⟨hmeanEntry, hdeviationEntry, hcountEntry⟩ := hentries
  refine ⟨_, _, _, hmeanEntry, hdeviationEntry, hcountEntry, hmean, hdeviation, ?_, ?_⟩
  · intro precision hprecision
    exact exists_cell_eq_ok hprecision (List.getElem?_eq_some_iff.1 hmeanEntry).1
      (List.getElem?_eq_some_iff.1 hdeviationEntry).1
  · intro precision text hcell
    obtain rfl := eq_cellText_of_cell hmeanEntry hdeviationEntry hcountEntry hcell
    refine ⟨rfl, ?_⟩
    rw [showsUnavailable_cellText_iff, hmean, hdeviation, or_self]

/-- A metric whose values overflow when they are added, and one without values. -/
def overflowRun : List Block :=
  [((Block.start (.point (.label "A"))).record "huge"
    [⟨0x7fefffffffffffff⟩, ⟨0x7fefffffffffffff⟩]).record "none" []]

def overflowSeries : Series := Aggregation.collect overflowRun

theorem tellsAvailability_ofBlocks_overflowRun :
    Series.ofBlocks .truncate overflowRun = .ok overflowSeries ∧
    overflowSeries.metrics.values =
      [⟨[.infinity false], [.infinity false], [2]⟩, ⟨[.quietNaN false], [.quietNaN false], [0]⟩] ∧
    TellsAvailability ⟨[.infinity false], [.infinity false], [2]⟩ 0 (.infinity false)
      (.infinity false) 2 ∧
    TellsAvailability ⟨[.quietNaN false], [.quietNaN false], [0]⟩ 0 (.quietNaN false)
      (.quietNaN false) 0 := by
  have hseries : Series.ofBlocks .truncate overflowRun = .ok overflowSeries := rfl
  have hvalues : overflowSeries.metrics.values =
      [⟨[.infinity false], [.infinity false], [2]⟩,
        ⟨[.quietNaN false], [.quietNaN false], [0]⟩] := by decide +kernel
  have hrecorded : ∀ block ∈ overflowRun, ∀ values ∈ block.metrics.values, ∀ value ∈ values,
      value.isFinite = true := by decide
  have hfinite : ∀ block ∈ overflowRun, ∀ name, ∀ value ∈ block.valuesOf name,
      value.isFinite = true := by
    intro block hblock name value hvalue
    rw [Block.valuesOf] at hvalue
    cases hfound : block.metrics.get? name with
    | none => simp [hfound] at hvalue
    | some values =>
      rw [hfound, Option.getD_some] at hvalue
      exact hrecorded block hblock values (SortedMap.mem_values_iff.2 ⟨name, hfound⟩) value hvalue
  have hplace : 0 < overflowSeries.length := by decide
  refine ⟨hseries, hvalues, ?_, ?_⟩
  · obtain ⟨mean, deviation, count, htells⟩ := tellsAvailability_ofBlocks hseries hfinite
      (by rw [hvalues]; exact List.mem_cons_self) (by decide) hplace
    cases htells.mean_eq
    cases htells.deviation_eq
    cases htells.count_eq
    exact htells
  · obtain ⟨mean, deviation, count, htells⟩ := tellsAvailability_ofBlocks hseries hfinite
      (by rw [hvalues]; exact List.mem_cons_of_mem _ List.mem_cons_self) (by decide) hplace
    cases htells.mean_eq
    cases htells.deviation_eq
    cases htells.count_eq
    exact htells

end Report.Markdown

end TrialSeries
