import Mathlib.Data.List.Perm.Basic
import TrialSeries.Proofs.ByteOrder
import TrialSeries.Proofs.TrialGroups

/-!
# The order of results

The groups of the trials, one after the other, are the results in the order of a report: trials
ascend by their bytes, the runs of a trial ascend by their bytes, and results of the same trial and
run stay in the order in which they came.
-/

open scoped List

namespace TrialSeries

namespace RunResult

/-- A result may stand before another one: its trial is less, or the trials agree and its run is not
greater. -/
def MayPrecede (left right : RunResult) : Prop :=
  Text.bytes left.trial < Text.bytes right.trial ∨
    left.trial = right.trial ∧ Text.bytes left.run ≤ Text.bytes right.run

/-- The results of one trial and run. -/
def named (trial run : String) (results : List RunResult) : List RunResult :=
  results.filter fun result ↦ result.trial = trial ∧ result.run = run

end RunResult

/-- Results moved into ascending order, where results of the same name are not swapped. -/
structure IsOrdered (results ordered : List RunResult) : Prop where
  perm : ordered ~ results
  ascending : ordered.Pairwise RunResult.MayPrecede
  stable (trial run : String) :
    RunResult.named trial run ordered = RunResult.named trial run results

/-- The results trial by trial. -/
def reportOrder (results : List RunResult) : List RunResult :=
  (groupByTrial results).entries.flatMap (·.2)

/-! ## The runs of a trial -/

namespace RunResult

theorem pairwise_insertByRun {result : RunResult} {results : List RunResult}
    (h : results.Pairwise fun left right ↦ Text.bytes left.run ≤ Text.bytes right.run) :
    (result.insertByRun results).Pairwise
      fun left right ↦ Text.bytes left.run ≤ Text.bytes right.run := by
  induction results with
  | nil => simp [insertByRun]
  | cons other rest ih =>
    obtain ⟨hother, hrest⟩ := List.pairwise_cons.1 h
    unfold insertByRun
    split
    · rename_i hlt
      have hle := List.le_of_lt (Text.compare_eq_lt_iff_bytes_lt.1 hlt)
      apply List.pairwise_cons.2
      refine ⟨?_, h⟩
      intro found hfound
      rcases List.mem_cons.1 hfound with rfl | hfound
      · exact hle
      · exact List.le_trans hle (hother found hfound)
    · rename_i hge
      apply List.pairwise_cons.2
      refine ⟨?_, ih hrest⟩
      intro found hfound
      rcases List.mem_cons.1 ((result.perm_insertByRun rest).subset hfound) with rfl | hfound
      · exact Text.bytes_le_iff.2 hge
      · exact hother found hfound

/-- Behind a result stand all results with the same run that were there before it. -/
theorem filter_insertByRun {result : RunResult} {results : List RunResult}
    (h : results.Pairwise fun left right ↦ Text.bytes left.run ≤ Text.bytes right.run)
    (run : String) :
    (result.insertByRun results).filter (·.run = run) =
      results.filter (·.run = run) ++ [result].filter (·.run = run) := by
  induction results with
  | nil => simp [insertByRun]
  | cons other rest ih =>
    obtain ⟨hother, hrest⟩ := List.pairwise_cons.1 h
    unfold insertByRun
    split
    · rename_i hlt
      by_cases hrun : result.run = run
      · have hnone : (other :: rest).filter (·.run = run) = [] := by
          rw [List.filter_eq_nil_iff]
          intro found hfound hsame
          have hlt := Text.compare_eq_lt_iff_bytes_lt.1 hlt
          rw [hrun, ← decide_eq_true_iff.1 hsame] at hlt
          rcases List.mem_cons.1 hfound with rfl | hfound
          · exact List.lt_irrefl _ hlt
          · exact hother found hfound hlt
        rw [List.filter_cons, hnone]
        simp [hrun]
      · simp [hrun]
    · rw [List.filter_cons, List.filter_cons, ih hrest]
      split <;> rfl

end RunResult

/-! ## The groups of the trials -/

theorem perm_flatMap_alterEntries {α κ : Type} [Ord κ] [Std.TransOrd κ] {key : κ} {last : α}
    {change : Option (List α) → List α}
    (hchange : ∀ old, change old ~ last :: old.getD []) (entries : List (κ × List α)) :
    ((SortedMap.alterEntries key change entries).flatMap (·.2)) ~
      last :: entries.flatMap (·.2) := by
  induction entries with
  | nil => simpa [SortedMap.alterEntries] using hchange none
  | cons head rest ih =>
    obtain ⟨other, group⟩ := head
    unfold SortedMap.alterEntries
    split
    · exact (hchange none).append_right _
    · exact (hchange (some group)).append_right _
    · calc
        group ++ _ ~ group ++ last :: rest.flatMap (·.2) := ih.append_left group
        _ ~ last :: (group ++ rest.flatMap (·.2)) := List.perm_middle

theorem perm_reportOrder (results : List RunResult) : reportOrder results ~ results := by
  induction results using List.reverseRec with
  | nil => rfl
  | append_singleton results last ih =>
    rw [reportOrder, groupByTrial_append_singleton]
    calc
      _ ~ last :: reportOrder results :=
        perm_flatMap_alterEntries (fun old ↦ last.perm_insertByRun (old.getD [])) _
      _ ~ last :: results := ih.cons last
      _ ~ results ++ [last] := (List.perm_append_singleton last results).symm

theorem trial_of_mem_group {results group : List RunResult} {trial : String}
    (h : (trial, group) ∈ (groupByTrial results).entries) {result : RunResult}
    (hresult : result ∈ group) : result.trial = trial := by
  have hmem := (perm_of_mem_entries_groupByTrial h).subset hresult
  exact decide_eq_true_iff.1 (List.mem_filter.1 hmem).2

/-- The runs of a trial ascend. -/
theorem pairwise_getD_get?_groupByTrial (results : List RunResult) (trial : String) :
    (((groupByTrial results).get? trial).getD []).Pairwise
      fun left right ↦ Text.bytes left.run ≤ Text.bytes right.run := by
  induction results using List.reverseRec with
  | nil => exact .nil
  | append_singleton results last ih =>
    rw [groupByTrial_append_singleton, SortedMap.get?_alter]
    split
    · rename_i htrial
      rw [← htrial]
      exact RunResult.pairwise_insertByRun ih
    · exact ih

/-- Results of one trial and run stay in their order. -/
theorem filter_getD_get?_groupByTrial (results : List RunResult) (trial run : String) :
    (((groupByTrial results).get? trial).getD []).filter (·.run = run) =
      RunResult.named trial run results := by
  induction results using List.reverseRec with
  | nil => rfl
  | append_singleton results last ih =>
    rw [groupByTrial_append_singleton, SortedMap.get?_alter, RunResult.named, List.filter_append,
      ← RunResult.named, ← ih]
    split
    · rename_i htrial
      rw [htrial, Option.getD_some,
        RunResult.filter_insertByRun (pairwise_getD_get?_groupByTrial results last.trial)]
      simp [List.filter_singleton]
    · rename_i htrial
      simp [Ne.symm htrial]

/-- The results of a trial in the order of a report are its group. -/
theorem filter_flatMap_entries {entries : List (String × List RunResult)}
    (hascending : entries.Pairwise fun left right ↦ compare left.1 right.1 = .lt)
    (htrials : ∀ entry ∈ entries, ∀ result ∈ entry.2, result.trial = entry.1) (trial : String) :
    (entries.flatMap (·.2)).filter (·.trial = trial) =
      (SortedMap.lookup trial entries).getD [] := by
  induction entries with
  | nil => rfl
  | cons head rest ih =>
    obtain ⟨other, group⟩ := head
    obtain ⟨hother, hrest⟩ := List.pairwise_cons.1 hascending
    obtain ⟨hgroup, htrialsRest⟩ := List.forall_mem_cons.1 htrials
    rw [List.flatMap_cons, List.filter_append, SortedMap.lookup]
    split
    · rename_i heq
      obtain rfl := Std.LawfulEqCmp.eq_of_compare heq
      have hall : group.filter (·.trial = trial) = group := by
        apply List.filter_eq_self.2
        intro result hresult
        exact decide_eq_true (hgroup result hresult)
      have hnone : (rest.flatMap (·.2)).filter (·.trial = trial) = [] := by
        rw [List.filter_eq_nil_iff]
        intro result hresult hsame
        obtain ⟨entry, hentry, hresult⟩ := List.mem_flatMap.1 hresult
        have hlt := hother entry hentry
        rw [← htrialsRest entry hentry result hresult, decide_eq_true_iff.1 hsame] at hlt
        simp [Std.ReflCmp.compare_self] at hlt
      rw [hall, hnone]
      simp
    · rename_i hne
      have hnone : group.filter (·.trial = trial) = [] := by
        rw [List.filter_eq_nil_iff]
        intro result hresult hsame
        rw [← decide_eq_true_iff.1 hsame, hgroup result hresult] at hne
        exact hne Std.ReflCmp.compare_self
      rw [hnone, List.nil_append]
      exact ih hrest htrialsRest

theorem filter_trial_reportOrder (results : List RunResult) (trial : String) :
    (reportOrder results).filter (·.trial = trial) =
      ((groupByTrial results).get? trial).getD [] := by
  apply filter_flatMap_entries (groupByTrial results).ascending
  intro entry hentry result hresult
  exact trial_of_mem_group hentry hresult

theorem pairwise_reportOrder (results : List RunResult) :
    (reportOrder results).Pairwise RunResult.MayPrecede := by
  rw [reportOrder, List.pairwise_flatMap]
  constructor
  · rintro ⟨trial, group⟩ hentry
    have hgroup := pairwise_getD_get?_groupByTrial results trial
    rw [SortedMap.get?_eq_some_iff.2 hentry, Option.getD_some] at hgroup
    apply hgroup.imp_of_mem
    intro left right hleft hright hle
    have htrial := (trial_of_mem_group hentry hleft).trans (trial_of_mem_group hentry hright).symm
    exact .inr ⟨htrial, hle⟩
  · apply (groupByTrial results).ascending.imp_of_mem
    intro first second hfirst hsecond hlt left hleft right hright
    left
    rw [trial_of_mem_group hfirst hleft, trial_of_mem_group hsecond hright]
    exact Text.compare_eq_lt_iff_bytes_lt.1 hlt

theorem isOrdered_reportOrder (results : List RunResult) :
    IsOrdered results (reportOrder results) where
  perm := perm_reportOrder results
  ascending := pairwise_reportOrder results
  stable trial run := by
    calc
      RunResult.named trial run (reportOrder results) =
          ((reportOrder results).filter (·.trial = trial)).filter (·.run = run) := by
        rw [RunResult.named, List.filter_filter]
        simp only [Bool.decide_and, Bool.and_comm]
      _ = (((groupByTrial results).get? trial).getD []).filter (·.run = run) := by
        rw [filter_trial_reportOrder]
      _ = RunResult.named trial run results := filter_getD_get?_groupByTrial results trial run

/-! ## Trials -/

/-- The trials of some results, each of them once, in ascending order. -/
def trialsOf (results : List RunResult) : List String := ascendingDistinct (results.map (·.trial))

theorem pairwise_trialsOf (results : List RunResult) :
    (trialsOf results).Pairwise fun left right ↦ compare left right = .lt :=
  pairwise_ascendingDistinct _

theorem mem_trialsOf {results : List RunResult} {trial : String} :
    trial ∈ trialsOf results ↔ ∃ result ∈ results, result.trial = trial := by
  rw [trialsOf, mem_ascendingDistinct, List.mem_map]

theorem keys_groupByTrial (results : List RunResult) :
    (groupByTrial results).keys = trialsOf results := by
  apply eq_of_ascending_of_mem_iff (groupByTrial results).ascending_keys
    (pairwise_trialsOf results)
  intro trial
  rw [mem_trialsOf]
  induction results using List.reverseRec with
  | nil => simp [groupByTrial, SortedMap.mem_keys_iff]
  | append_singleton results last ih =>
    rw [groupByTrial_append_singleton, SortedMap.mem_keys_alter, ih]
    simp [or_and_right, exists_or, or_comm, eq_comm]

/-- The groups are the results of each trial in the order of a report. -/
theorem entries_groupByTrial (results : List RunResult) :
    (groupByTrial results).entries =
      (trialsOf results).map fun trial ↦
        (trial, (reportOrder results).filter (·.trial = trial)) := by
  rw [← keys_groupByTrial, SortedMap.keys, List.map_map]
  conv_lhs => rw [← List.map_id (groupByTrial results).entries]
  apply List.map_congr_left
  intro entry hentry
  rw [Function.comp_apply, filter_trial_reportOrder, SortedMap.get?_eq_some_iff.2 hentry]
  rfl

theorem flatMap_trialsOf_filter (results : List RunResult) :
    ((trialsOf results).flatMap fun trial ↦ (reportOrder results).filter (·.trial = trial)) =
      reportOrder results := by
  conv_rhs => rw [reportOrder, entries_groupByTrial, List.flatMap_map]

/-- Leaving out the trials without a result that passes a test leaves the trials of the results that
pass it. -/
theorem filter_trialsOf (results : List RunResult) (test : RunResult → Bool) :
    (trialsOf results).filter
        (fun trial ↦ ((reportOrder results).filter (·.trial = trial)).any test) =
      trialsOf (results.filter test) := by
  apply eq_of_ascending_of_mem_iff ((pairwise_trialsOf results).filter _) (pairwise_trialsOf _)
  intro trial
  have hmem (result : RunResult) : result ∈ reportOrder results ↔ result ∈ results :=
    (perm_reportOrder results).mem_iff
  rw [List.mem_filter, mem_trialsOf, mem_trialsOf]
  simp only [List.any_eq_true, List.mem_filter, hmem, decide_eq_true_eq]
  constructor
  · intro h
    obtain ⟨-, result, ⟨hresult, htrial⟩, htest⟩ := h
    exact ⟨result, ⟨hresult, htest⟩, htrial⟩
  · intro h
    obtain ⟨result, ⟨hresult, htest⟩, htrial⟩ := h
    exact ⟨⟨result, hresult, htrial⟩, result, ⟨hresult, htrial⟩, htest⟩

/-! ## One order only -/

namespace RunResult

/-- Results that may precede each other have the same name. -/
theorem MayPrecede.eq_names {left right : RunResult} (h : MayPrecede left right)
    (hback : MayPrecede right left) : left.trial = right.trial ∧ left.run = right.run := by
  rcases h with hlt | ⟨htrial, hle⟩
  · rcases hback with hgt | ⟨htrial, -⟩
    · exact absurd hgt (List.lt_asymm hlt)
    · rw [htrial] at hlt
      exact absurd hlt (List.lt_irrefl _)
  · rcases hback with hgt | ⟨-, hge⟩
    · rw [htrial] at hgt
      exact absurd hgt (List.lt_irrefl _)
    · exact ⟨htrial, Text.eq_of_bytes_le hle hge⟩

theorem mem_named {trial run : String} {results : List RunResult} {result : RunResult} :
    result ∈ named trial run results ↔
      result ∈ results ∧ result.trial = trial ∧ result.run = run := by
  simp [named]

theorem mem_iff_of_named_eq {first second : List RunResult}
    (h : ∀ trial run, named trial run first = named trial run second) (result : RunResult) :
    result ∈ first ↔ result ∈ second := by
  have hnamed := congrArg (result ∈ ·) (h result.trial result.run)
  simpa [mem_named] using hnamed

/-- Ascending lists with the same results of each name are the same list. -/
theorem eq_of_named_eq {first second : List RunResult} (hfirst : first.Pairwise MayPrecede)
    (hsecond : second.Pairwise MayPrecede)
    (h : ∀ trial run, named trial run first = named trial run second) : first = second := by
  induction first generalizing second with
  | nil =>
    cases second with
    | nil => rfl
    | cons other others =>
      exact absurd ((mem_iff_of_named_eq h other).2 List.mem_cons_self) List.not_mem_nil
  | cons head rest ih =>
    cases second with
    | nil => exact absurd ((mem_iff_of_named_eq h head).1 List.mem_cons_self) List.not_mem_nil
    | cons other others =>
      obtain ⟨hhead, hrest⟩ := List.pairwise_cons.1 hfirst
      obtain ⟨hother, hothers⟩ := List.pairwise_cons.1 hsecond
      -- Each head is in the other list, so each may precede the other unless they are the same.
      obtain ⟨htrial, hrun⟩ : head.trial = other.trial ∧ head.run = other.run := by
        rcases List.mem_cons.1 ((mem_iff_of_named_eq h head).1 List.mem_cons_self) with rfl | hforth
        · exact ⟨rfl, rfl⟩
        · rcases List.mem_cons.1 ((mem_iff_of_named_eq h other).2 List.mem_cons_self) with
            rfl | hback
          · exact ⟨rfl, rfl⟩
          · exact (hhead other hback).eq_names (hother head hforth)
      obtain rfl : head = other := by
        have hnamed := h head.trial head.run
        simp only [named, htrial, hrun, List.filter_cons, and_self, decide_true, if_true] at hnamed
        exact (List.cons.inj hnamed).1
      rw [ih hrest hothers]
      intro trial run
      have hnamed := h trial run
      simp only [named, List.filter_cons] at hnamed ⊢
      split at hnamed
      · exact (List.cons.inj hnamed).2
      · exact hnamed

end RunResult

/-- Leaving out results keeps the order of the others. -/
theorem reportOrder_filter (results : List RunResult) (test : RunResult → Bool) :
    reportOrder (results.filter test) = (reportOrder results).filter test := by
  apply RunResult.eq_of_named_eq (pairwise_reportOrder _) ((pairwise_reportOrder results).filter test)
  intro trial run
  have hstable := (isOrdered_reportOrder results).stable trial run
  rw [(isOrdered_reportOrder _).stable trial run]
  simp only [RunResult.named] at hstable ⊢
  rw [List.filter_comm, ← hstable, List.filter_comm]

/-- No two results have the same trial and run. -/
def HaveDistinctNames (results : List RunResult) : Prop :=
  (results.map fun result ↦ (result.trial, result.run)).Nodup

instance (results : List RunResult) : Decidable (HaveDistinctNames results) :=
  inferInstanceAs (Decidable (List.Nodup _))

/-- The order of results with distinct names does not depend on the order in which they came. -/
theorem reportOrder_eq_of_perm {results others : List RunResult}
    (hdistinct : HaveDistinctNames results) (h : others ~ results) :
    reportOrder others = reportOrder results := by
  have hperm : reportOrder others ~ reportOrder results :=
    (perm_reportOrder others).trans (h.trans (perm_reportOrder results).symm)
  apply hperm.eq_of_pairwise _ (pairwise_reportOrder others) (pairwise_reportOrder results)
  intro left right hleft hright hforth hback
  have hnames := hforth.eq_names hback
  apply List.inj_on_of_nodup_map hdistinct
  · exact h.subset ((perm_reportOrder others).subset hleft)
  · exact (perm_reportOrder results).subset hright
  · rw [hnames.1, hnames.2]

theorem groupByTrial_eq_of_perm {results others : List RunResult}
    (hdistinct : HaveDistinctNames results) (h : others ~ results) :
    groupByTrial others = groupByTrial results := by
  have htrials : trialsOf others = trialsOf results :=
    ascendingDistinct_congr fun _ ↦ (h.map (·.trial)).mem_iff
  apply SortedMap.ext
  rw [entries_groupByTrial, entries_groupByTrial, htrials, reportOrder_eq_of_perm hdistinct h]

end TrialSeries
