import TrialSeries.Aggregation
import TrialSeries.Proofs.FirstBad
import TrialSeries.Proofs.MapLookup

/-!
# Checks of a run

The checks of a run pass exactly if every block has all metrics of the run, all blocks are recorded
at points or all along vectors, and vectors can be aligned and paired with the values of each metric.
A run that passes them has a series.
-/

namespace TrialSeries

namespace Aggregation

theorem firstDefect_eq_none_iff {α β : Type} {defect : α → Option β} {place : Nat}
    {members : List α} :
    firstDefect defect place members = none ↔ ∀ member ∈ members, defect member = none := by
  induction members generalizing place with
  | nil => simp [firstDefect]
  | cons member members ih =>
    rw [firstDefect, List.forall_mem_cons]
    cases defect member with
    | some found => simp
    | none => simpa using ih

theorem mem_metricNames {blocks : List Block} {name : String} :
    name ∈ metricNames blocks ↔ ∃ block ∈ blocks, name ∈ block.metrics.keys := by
  rw [metricNames, mem_ascendingDistinct, List.mem_flatMap]

theorem checkNames_eq_ok_iff {names : List String} {blocks : List Block} :
    checkNames names blocks = .ok () ↔
      ∀ block ∈ blocks, ∀ name ∈ names, name ∈ block.metrics.keys := by
  have hmissing : checkNames names blocks = .ok () ↔
      firstDefect (missingName? names) 0 blocks = none := by
    unfold checkNames
    cases firstDefect (missingName? names) 0 blocks <;> simp
  rw [hmissing, firstDefect_eq_none_iff]
  simp [missingName?, SortedMap.contains_iff]

theorem checkAxes_eq_ok_iff {blocks : List Block} :
    checkAxes blocks = .ok () ↔
      ∀ block ∈ blocks, block.axis.isVector = isVectorRun blocks := by
  have hmixed : checkAxes blocks = .ok () ↔
      firstDefect (fun block ↦ if block.axis.isVector = isVectorRun blocks then none else some ())
        0 blocks = none := by
    simp only [checkAxes]
    cases firstDefect _ 0 blocks <;> simp
  rw [hmixed, firstDefect_eq_none_iff]
  simp

theorem checkValues_eq_ok_iff {names : List String} {width : Nat} {blocks : List Block} :
    checkValues names width blocks = .ok () ↔
      ∀ block ∈ blocks, ∀ name ∈ names, width ≤ (block.valuesOf name).length := by
  have hshort : checkValues names width blocks = .ok () ↔
      firstDefect (shortMetric? names width) 0 blocks = none := by
    unfold checkValues
    cases firstDefect (shortMetric? names width) 0 blocks <;> simp
  rw [hshort, firstDefect_eq_none_iff]
  simp [shortMetric?]

theorem checkLengths_eq_ok_iff {alignment : Alignment} {blocks : List Block} :
    checkLengths alignment blocks = .ok () ↔
      shortest blocks = longest blocks ∨ alignment ≠ .reject := by
  unfold checkLengths
  split
  · rename_i h
    simp [h]
  · rename_i h
    simpa [or_iff_not_imp_left] using h

theorem check_eq_ok_iff {alignment : Alignment} {blocks : List Block} :
    check alignment blocks = .ok () ↔
      checkNames (metricNames blocks) blocks = .ok () ∧ checkAxes blocks = .ok () ∧
        (isVectorRun blocks = true → checkLengths alignment blocks = .ok () ∧
          checkValues (metricNames blocks) (shortest blocks) blocks = .ok ()) := by
  unfold check
  cases checkNames (metricNames blocks) blocks with
  | error error => simp [bind, Except.bind]
  | ok _ =>
    cases checkAxes blocks with
    | error error => simp [bind, Except.bind]
    | ok _ =>
      cases isVectorRun blocks with
      | false => simp [bind, Except.bind, pure, Except.pure]
      | true => cases checkLengths alignment blocks <;> simp [bind, Except.bind]

/-- All blocks of a run whose axes are of one kind tell that kind. -/
theorem isVectorRun_eq {blocks : List Block} {kind : Bool} (hne : blocks ≠ [])
    (h : ∀ block ∈ blocks, block.axis.isVector = kind) : isVectorRun blocks = kind := by
  cases blocks with
  | nil => exact absurd rfl hne
  | cons block rest =>
    rw [isVectorRun]
    simpa using h block List.mem_cons_self

end Aggregation

theorem Series.ofBlocks_eq_ok_iff {alignment : Alignment} {blocks : List Block} {series : Series}
    (hne : blocks ≠ []) :
    Series.ofBlocks alignment blocks = .ok series ↔
      Aggregation.check alignment blocks = .ok () ∧ Aggregation.collect blocks = series := by
  rw [Series.ofBlocks, if_neg hne, map_eq_ok_iff]
  constructor
  · intro h
    rcases h with ⟨⟨⟩, hcheck, hseries⟩
    exact ⟨hcheck, hseries⟩
  · intro h
    rcases h with ⟨hcheck, hseries⟩
    exact ⟨(), hcheck, hseries⟩

end TrialSeries
