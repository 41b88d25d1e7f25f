import TrialSeries.Proofs.TrialOrder
import TrialSeries.Report.Markdown

/-!
# What leaves the sections of a report alone

Failed runs leave no trace in the results, wherever they stand among the other runs and whether their
trials have other runs or not. The order in which the runs came leaves no trace in the contents, the
summary and the results, as long as no two runs have the same name.
-/

open scoped List

namespace TrialSeries.Report.Markdown

/-! ## Lines of several items -/

/-- The lines of all items, one item after the other. -/
def linesOfAll {α ε : Type} (linesOf : α → Except ε (List String)) (items : List α) :
    Except ε (List String) := (items.mapM linesOf).map List.flatten

section LinesOfAll

variable {α β ε : Type} {linesOf : α → Except ε (List String)}

theorem linesOfAll_cons (head : α) (rest : List α) :
    linesOfAll linesOf (head :: rest) =
      do return (← linesOf head) ++ (← linesOfAll linesOf rest) := by
  unfold linesOfAll
  rw [List.mapM_cons]
  cases linesOf head with
  | error error => rfl
  | ok lines => cases rest.mapM linesOf <;> rfl

/-- Two lines put before the lines of all items. -/
theorem map_linesOfAll_eq_bind (first second : String) (items : List α) :
    ((linesOfAll linesOf items).map fun lines ↦ first :: second :: lines) =
      do return first :: second :: (← items.mapM linesOf).flatten := by
  unfold linesOfAll
  cases items.mapM linesOf <;> rfl

theorem linesOfAll_map (items : List β) (f : β → α) :
    linesOfAll linesOf (items.map f) = linesOfAll (fun item ↦ linesOf (f item)) items := by
  unfold linesOfAll
  rw [List.mapM_map]
  rfl

/-- Items without lines can be left out. -/
theorem linesOfAll_filter {items : List α} {test : α → Bool}
    (h : ∀ item ∈ items, test item = false → linesOf item = .ok []) :
    linesOfAll linesOf (items.filter test) = linesOfAll linesOf items := by
  induction items with
  | nil => rfl
  | cons head rest ih =>
    obtain ⟨hhead, hrest⟩ := List.forall_mem_cons.1 h
    cases htest : test head with
    | false =>
      rw [List.filter_cons_of_neg (by simp [htest]), ih hrest, linesOfAll_cons, hhead htest]
      cases linesOfAll linesOf rest <;> rfl
    | true => rw [List.filter_cons_of_pos htest, linesOfAll_cons, linesOfAll_cons, ih hrest]

end LinesOfAll

/-! ## Failed runs -/

section Failures

variable {precision : Nat}

theorem trialLines_eq (trial : String) (results : List RunResult) :
    trialLines precision trial results =
      if results.any (·.isSuccess) then
        (linesOfAll (runLines precision) results).map fun lines ↦ ("### " ++ trial) :: "" :: lines
      else .ok [] := by
  rw [map_linesOfAll_eq_bind]
  rfl

theorem resultsLines_eq (runs : List RunResult) :
    resultsLines precision runs =
      if runs.any (·.isSuccess) then
        (linesOfAll (fun group ↦ trialLines precision group.1 group.2)
          (groupByTrial runs).entries).map fun lines ↦ "## Results" :: "" :: lines
      else .ok ["## Results", "", "No run file was aggregated successfully.", ""] := by
  rw [map_linesOfAll_eq_bind]
  rfl

theorem any_filter_isSuccess (results : List RunResult) :
    (results.filter (·.isSuccess)).any (·.isSuccess) = results.any (·.isSuccess) := by
  simp

theorem trialLines_filter_isSuccess (trial : String) (results : List RunResult) :
    trialLines precision trial (results.filter (·.isSuccess)) =
      trialLines precision trial results := by
  have hfailed : ∀ result ∈ results, result.isSuccess = false →
      runLines precision result = .ok [] := by
    intro result _ hfails
    have hseries : result.series = none := by simpa [RunResult.isSuccess] using hfails
    rw [runLines, hseries]
  rw [trialLines_eq, trialLines_eq, any_filter_isSuccess, linesOfAll_filter hfailed]

/-- The groups of the successful runs are those of all runs without the failed runs and without the
trials of which all runs failed. -/
theorem entries_groupByTrial_filter_isSuccess (runs : List RunResult) :
    (groupByTrial (runs.filter (·.isSuccess))).entries =
      ((groupByTrial runs).entries.filter (·.2.any (·.isSuccess))).map fun group ↦
        (group.1, group.2.filter (·.isSuccess)) := by
  rw [entries_groupByTrial, entries_groupByTrial, List.filter_map, List.map_map, ← filter_trialsOf,
    reportOrder_filter]
  apply List.map_congr_left
  intro trial _
  rw [List.filter_comm]
  rfl

theorem resultsLines_filter_isSuccess (runs : List RunResult) :
    resultsLines precision (runs.filter (·.isSuccess)) = resultsLines precision runs := by
  have hfailed : ∀ group ∈ (groupByTrial runs).entries, group.2.any (·.isSuccess) = false →
      trialLines precision group.1 group.2 = .ok [] := by
    intro group _ hnone
    rw [trialLines_eq, hnone, if_neg Bool.false_ne_true]
  rw [resultsLines_eq, resultsLines_eq, any_filter_isSuccess, entries_groupByTrial_filter_isSuccess,
    linesOfAll_map]
  simp only [trialLines_filter_isSuccess]
  rw [linesOfAll_filter hfailed]

end Failures

/-! ## Order and failures together -/

/-- Reports of two lists of runs do not differ in their contents, summaries and results. -/
structure HaveSameSections (precision : Nat) (runs others : List RunResult) : Prop where
  contents : contentsLines runs = contentsLines others
  summary : summaryLines runs = summaryLines others
  results : resultsLines precision runs = resultsLines precision others

theorem haveSameSections_of_perm {precision : Nat} {runs others : List RunResult}
    (hdistinct : HaveDistinctNames runs) (h : others ~ runs) :
    HaveSameSections precision others runs := by
  have hgroups := groupByTrial_eq_of_perm hdistinct h
  have hany : others.any (·.isSuccess) = runs.any (·.isSuccess) := by
    rw [Bool.eq_iff_iff, List.any_eq_true, List.any_eq_true]
    simp only [h.mem_iff]
  constructor
  · rw [contentsLines, contentsLines, hgroups]
  · rw [summaryLines, summaryLines, hgroups]
  · rw [resultsLines, resultsLines, hgroups, hany]

/-- The results are those of the successful runs alone, and runs of distinct names give the same
contents, summary and results in whatever order they come. -/
theorem sections_undisturbed (precision : Nat) (runs : List RunResult) :
    resultsLines precision runs = resultsLines precision (runs.filter (·.isSuccess)) ∧
      (HaveDistinctNames runs → ∀ others, others ~ runs →
        HaveSameSections precision others runs) := by
  constructor
  · exact (resultsLines_filter_isSuccess runs).symm
  · intro hdistinct others h
    exact haveSameSections_of_perm hdistinct h

/-- A run between two failed ones, the first of them the only run of its trial. -/
def straySuccess : List RunResult :=
  [⟨"T2", "b.csv", "T2/b.csv", none, some "no colon"⟩,
   ⟨"T1", "x.csv", "T1/x.csv", some Series.empty, none⟩,
   ⟨"T1", "a.csv", "T1/a.csv", none, some "cannot be read"⟩]

theorem sections_undisturbed_straySuccess :
    HaveDistinctNames straySuccess ∧ straySuccess.reverse ~ straySuccess ∧
      resultsLines 3 straySuccess =
        resultsLines 3 [⟨"T1", "x.csv", "T1/x.csv", some Series.empty, none⟩] ∧
      HaveSameSections 3 straySuccess.reverse straySuccess := by
  have hdistinct : HaveDistinctNames straySuccess := by decide
  have hperm : straySuccess.reverse ~ straySuccess := List.reverse_perm straySuccess
  obtain ⟨hresults, hsections⟩ := sections_undisturbed 3 straySuccess
  exact ⟨hdistinct, hperm, hresults, hsections hdistinct _ hperm⟩

end TrialSeries.Report.Markdown
