import TrialSeries.Proofs.MapLookup
import TrialSeries.RunResult

/-!
# Results by trial

Ordering the results of a trial by their runs only moves them, so the group of a trial is made of
exactly the results of that trial.
-/

open scoped List

namespace TrialSeries

theorem RunResult.perm_insertByRun (result : RunResult) (results : List RunResult) :
    result.insertByRun results ~ result :: results := by
  induction results with
  | nil => rfl
  | cons other rest ih =>
    unfold insertByRun
    split
    · rfl
    · exact (ih.cons other).trans (.swap result other rest)

theorem groupByTrial_append_singleton (results : List RunResult) (last : RunResult) :
    groupByTrial (results ++ [last]) =
      (groupByTrial results).alter last.trial fun old ↦ last.insertByRun (old.getD []) := by
  unfold groupByTrial
  rw [List.foldl_append]
  rfl

/-- What is found under a trial are the results of that trial. -/
theorem perm_getD_get?_groupByTrial (results : List RunResult) (trial : String) :
    ((groupByTrial results).get? trial).getD [] ~ results.filter (·.trial = trial) := by
  induction results using List.reverseRec with
  | nil => rfl
  | append_singleton results last ih =>
    rw [groupByTrial_append_singleton, SortedMap.get?_alter, List.filter_append]
    by_cases htrial : trial = last.trial
    · subst htrial
      rw [if_pos rfl, Option.getD_some, List.filter_singleton, decide_eq_true rfl]
      calc
        last.insertByRun (((groupByTrial results).get? last.trial).getD []) ~
            last :: ((groupByTrial results).get? last.trial).getD [] :=
          last.perm_insertByRun _
        _ ~ last :: results.filter (·.trial = last.trial) := ih.cons last
        _ ~ results.filter (·.trial = last.trial) ++ [last] :=
          (List.perm_append_singleton last _).symm
    · rw [if_neg htrial, List.filter_singleton, decide_eq_false (Ne.symm htrial)]
      simpa using ih

theorem perm_of_mem_entries_groupByTrial {results group : List RunResult} {trial : String}
    (h : (trial, group) ∈ (groupByTrial results).entries) :
    group ~ results.filter (·.trial = trial) := by
  have hgroup := perm_getD_get?_groupByTrial results trial
  rwa [SortedMap.get?_eq_some_iff.2 h, Option.getD_some] at hgroup

end TrialSeries
