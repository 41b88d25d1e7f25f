import TrialSeries.Proofs.NumberEquality
import TrialSeries.Proofs.RowlessRuns
import TrialSeries.Proofs.SettingLookup

/-!
# Distinct numbers in a series

Settings are grouped by the total order, which tells `-0` from `0`. Every number that is read as a
setting is normalized, whether it is a field of a tuple or a position of a vector, so no series of a
log has a row at `-0`, and no two of its rows are at equal numbers.
-/

namespace TrialSeries

/-! ## Numbers that are read -/

/-- The number of a setting that is one. -/
def Setting.number? : Setting → Option Binary64
  | number value => some value
  | label _ => none

theorem Setting.number?_eq_some_iff {setting : Setting} {value : Binary64} :
    setting.number? = some value ↔ setting = .number value := by
  cases setting <;> simp [number?]

theorem Setting.ofField_ne_negativeZero (field : List Char) :
    ofField field ≠ .number .negativeZero := by
  rw [ofField]
  split
  · simpa [ofNumber] using Binary64.normalizeZero_ne_negativeZero _
  · simp

/-- An axis on which no number is `-0`. -/
def Axis.IsNormalized : Axis → Prop
  | point setting => setting ≠ .number .negativeZero
  | positions values => .negativeZero ∉ values

theorem Extraction.isNormalized_extract {rule : Extraction} {settings : List Char} {line : Nat}
    {axis : Axis} (h : rule.extract settings line = .ok axis) : axis.IsNormalized := by
  cases rule with
  | field index separator =>
    dsimp only [extract] at h
    split at h
    · cases h
      exact Setting.ofField_ne_negativeZero _
    · cases h
  | whole =>
    cases h
    simp [Axis.IsNormalized]
  | vector separator =>
    obtain ⟨values, -, rfl⟩ := map_eq_ok_iff.1 h
    simp [Axis.IsNormalized, Binary64.normalizeZero_ne_negativeZero]

theorem RunLog.isNormalized_of_parse {rule : Extraction} {text : String} {blocks : List Block}
    (h : parse rule text = .ok blocks) {block : Block} (hblock : block ∈ blocks) :
    block.axis.IsNormalized := by
  obtain ⟨settings, -, hextract⟩ := exists_mem_of_forall₂_right (forall₂_settingsOf h) hblock
  exact Extraction.isNormalized_extract (hextract 0)

/-! ## Numbers that are grouped -/

namespace Aggregation

theorem setting_ne_negativeZero {width : Nat} {block : Block} {observation : Observation}
    (h : block.axis.IsNormalized) (hobservation : observation ∈ observations width block) :
    observation.setting ≠ .number .negativeZero := by
  cases haxis : block.axis with
  | point setting =>
    rw [observations_of_point haxis, List.mem_singleton] at hobservation
    rw [hobservation]
    simpa [haxis, Axis.IsNormalized] using h
  | positions values =>
    simp only [observations, haxis, List.mem_map] at hobservation
    obtain ⟨⟨position, place⟩, -, rfl⟩ := hobservation
    simpa [positionAt, Setting.ofNumber] using Binary64.normalizeZero_ne_negativeZero _

/-- The settings of a series are those of the observations of its blocks. -/
theorem exists_observation_of_mem_settings {alignment : Alignment} {blocks : List Block}
    {series : Series} (h : Series.ofBlocks alignment blocks = .ok series) {setting : Setting}
    (hsetting : setting ∈ series.settings) :
    ∃ width, ∃ block ∈ blocks, ∃ observation ∈ observations width block,
      observation.setting = setting := by
  by_cases hne : blocks = []
  · subst hne
    cases h
    cases hsetting
  · obtain ⟨hcheck, rfl⟩ := (Series.ofBlocks_eq_ok_iff hne).1 h
    obtain ⟨truncated, hseries⟩ := exists_collect_eq_seriesOf (check_eq_ok_iff.1 hcheck).2.1
    rw [hseries] at hsetting
    obtain ⟨observation, hmem, hobservation⟩ := mem_keys_group.1 hsetting
    obtain ⟨block, hblock, hfound⟩ := List.mem_flatMap.1 hmem
    exact ⟨_, block, hblock, observation, hfound, hobservation⟩

end Aggregation

/-! ## Numbers of a series -/

namespace Series

/-- The numbers among the settings of a series, in their order. -/
def numbers (series : Series) : List Binary64 := series.settings.filterMap Setting.number?

theorem mem_numbers_iff {series : Series} {value : Binary64} :
    value ∈ series.numbers ↔ .number value ∈ series.settings := by
  simp [numbers, List.mem_filterMap, Setting.number?_eq_some_iff]

/-- No number stands in two places of a series. -/
theorem nodup_numbers {alignment : Alignment} {blocks : List Block} {series : Series}
    (h : ofBlocks alignment blocks = .ok series) : series.numbers.Nodup := by
  refine (nodup_of_ascending (ascending_ofBlocks h)).filterMap ?_
  intro setting other value hvalue hother
  rw [Option.mem_def, Setting.number?_eq_some_iff] at hvalue hother
  rw [hvalue, hother]

/-- The series of a log has no row at `-0` and no two rows at equal numbers. Likewise neither a field
nor a position of a vector is read as `-0`, and those that are read as equal numbers are read as one
value; a vector may hold one value in two positions, which then share a row. -/
theorem haveOneZero_of_parse :
    (∀ rule text alignment blocks series, RunLog.parse rule text = .ok blocks →
      ofBlocks alignment blocks = .ok series →
        Binary64.HaveOneZero {value | .number value ∈ series.settings} ∧
          series.numbers.Pairwise fun value other ↦ value.sameNumber other = false) ∧
      Binary64.HaveOneZero {value | ∃ field, Setting.ofField field = .number value} ∧
      ∀ (rule : Extraction) settings line values,
        rule.extract settings line = .ok (.positions values) →
          Binary64.HaveOneZero {value | value ∈ values} := by
  refine ⟨?_, ?_, ?_⟩
  · intro rule text alignment blocks series hparse hseries
    have hzero : Binary64.HaveOneZero {value | .number value ∈ series.settings} := by
      rw [Binary64.haveOneZero_iff]
      intro hsetting
      obtain ⟨width, block, hblock, observation, hmem, hobservation⟩ :=
        Aggregation.exists_observation_of_mem_settings hseries hsetting
      exact Aggregation.setting_ne_negativeZero (RunLog.isNormalized_of_parse hparse hblock) hmem
        hobservation
    refine ⟨hzero, (nodup_numbers hseries).imp_of_mem ?_⟩
    intro value other hvalue hother hne
    rw [Bool.eq_false_iff]
    intro hsame
    exact hne (hzero.eq_of_sameNumber (mem_numbers_iff.1 hvalue) (mem_numbers_iff.1 hother) hsame)
  · rw [Binary64.haveOneZero_iff]
    rintro ⟨field, hfield⟩
    exact Setting.ofField_ne_negativeZero field hfield
  · intro rule settings line values hextract
    rw [Binary64.haveOneZero_iff]
    exact Extraction.isNormalized_extract hextract

/-- Settings that are `0` in three ways of writing it. -/
def zeroesLog : String := "settings:-0\nm:1\nsettings:0.0\nm:3\nsettings:-1e-400\nm:8"

def zeroesRun : List Block :=
  [(Block.start (.point (.number .zero))).record "m" [⟨0x3ff0000000000000⟩],
   (Block.start (.point (.number .zero))).record "m" [⟨0x4008000000000000⟩],
   (Block.start (.point (.number .zero))).record "m" [⟨0x4020000000000000⟩]]

theorem haveOneZero_of_parse_zeroesLog :
    RunLog.parse (.field 0 '_') zeroesLog = .ok zeroesRun ∧
      (∃ series, ofBlocks .reject zeroesRun = .ok series ∧
        series.settings = [.number .zero] ∧ series.blocks = [3] ∧
        Binary64.HaveOneZero {value | .number value ∈ series.settings}) ∧
      Extraction.extract (.vector ',') "0,-0".toList 1 = .ok (.positions [.zero, .zero]) ∧
      Binary64.HaveOneZero {value | value ∈ [Binary64.zero, Binary64.zero]} := by
  have hparse : RunLog.parse (.field 0 '_') zeroesLog = .ok zeroesRun := by decide +kernel
  have hseries : ofBlocks .reject zeroesRun = .ok (Aggregation.collect zeroesRun) := rfl
  have hextract :
      Extraction.extract (.vector ',') "0,-0".toList 1 = .ok (.positions [.zero, .zero]) := by
    decide +kernel
  exact ⟨hparse, ⟨_, hseries, rfl, rfl, (haveOneZero_of_parse.1 _ _ _ _ _ hparse hseries).1⟩,
    hextract, haveOneZero_of_parse.2.2 _ _ _ _ hextract⟩

end Series

end TrialSeries
