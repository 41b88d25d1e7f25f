import TrialSeries.Proofs.TrialOrder

/-!
# Groups as a stable partition

Grouping takes results apart by their trials and loses none of them. The groups, one after the other,
are what a stable sort by trial and run makes of the results: each of them stands there once, trials
and runs ascend by their bytes, and results of the same trial and run are not swapped.
-/

open scoped List

namespace TrialSeries

/-! ## A stable sort -/

namespace RunResult

instance : DecidableRel MayPrecede := fun _ _ ↦ inferInstanceAs (Decidable (_ ∨ _))

theorem MayPrecede.trans {first second third : RunResult} (h : MayPrecede first second)
    (hnext : MayPrecede second third) : MayPrecede first third := by
  rcases h with hlt | ⟨htrial, hle⟩
  · rcases hnext with hlt' | ⟨htrial', -⟩
    · exact .inl (List.lt_trans hlt hlt')
    · exact .inl (htrial' ▸ hlt)
  · rcases hnext with hlt' | ⟨htrial', hle'⟩
    · exact .inl (htrial ▸ hlt')
    · exact .inr ⟨htrial.trans htrial', List.le_trans hle hle'⟩

theorem mayPrecede_total (left right : RunResult) :
    MayPrecede left right ∨ MayPrecede right left := by
  cases hcompare : compare left.trial right.trial with
  | lt => exact .inl (.inl (Text.compare_eq_lt_iff_bytes_lt.1 hcompare))
  | gt =>
    have hlt := Std.OrientedCmp.gt_iff_lt.1 hcompare
    exact .inr (.inl (Text.compare_eq_lt_iff_bytes_lt.1 hlt))
  | eq =>
    have htrial := Std.LawfulEqCmp.eq_of_compare hcompare
    rcases List.le_total (Text.bytes left.run) (Text.bytes right.run) with hle | hle
    · exact .inl (.inr ⟨htrial, hle⟩)
    · exact .inr (.inr ⟨htrial.symm, hle⟩)

/-- The results as a stable sort by trial and run leaves them. -/
def stablySorted (results : List RunResult) : List RunResult :=
  results.mergeSort fun left right ↦ MayPrecede left right

theorem pairwise_named (trial run : String) (results : List RunResult) :
    (named trial run results).Pairwise MayPrecede := by
  apply List.pairwise_of_forall_mem_list
  intro left hleft right hright
  obtain ⟨-, htrial, hrun⟩ := mem_named.1 hleft
  obtain ⟨-, htrial', hrun'⟩ := mem_named.1 hright
  exact .inr ⟨htrial.trans htrial'.symm, (hrun.trans hrun'.symm) ▸ List.le_refl _⟩

/-- Results of one name are already in order, so sorting does not swap them. -/
theorem named_stablySorted (trial run : String) (results : List RunResult) :
    named trial run (stablySorted results) = named trial run results := by
  have hperm : stablySorted results ~ results := List.mergeSort_perm _ _
  have hkept : named trial run results <+ stablySorted results := by
    apply List.sublist_mergeSort
    · simpa using fun _ _ _ ↦ MayPrecede.trans
    · simpa using mayPrecede_total
    · simpa using pairwise_named trial run results
    · exact List.filter_sublist
  have hsublist : named trial run (named trial run results) <+
      named trial run (stablySorted results) := hkept.filter _
  have htwice : named trial run (named trial run results) = named trial run results := by
    simp [named]
  rw [htwice] at hsublist
  exact (hsublist.eq_of_length (hperm.filter _).length_eq.symm).symm

theorem isOrdered_stablySorted (results : List RunResult) :
    IsOrdered results (stablySorted results) where
  perm := List.mergeSort_perm _ _
  ascending := by
    have hsorted : (stablySorted results).Pairwise fun left right ↦
        decide (MayPrecede left right) = true :=
      List.pairwise_mergeSort (by simpa using fun _ _ _ ↦ MayPrecede.trans)
        (by simpa using mayPrecede_total) results
    exact hsorted.imp of_decide_eq_true
  stable trial run := named_stablySorted trial run results

end RunResult

/-- There is one way only to put results into order without swapping those of one name. -/
theorem IsOrdered.unique {results ordered other : List RunResult} (h : IsOrdered results ordered)
    (hother : IsOrdered results other) : ordered = other :=
  RunResult.eq_of_named_eq h.ascending hother.ascending fun trial run ↦
    (h.stable trial run).trans (hother.stable trial run).symm

/-! ## The partition -/

/-- Groups that hold each result under its trial, and that are the sorted results one after the
other. -/
structure IsStablePartition (results : List RunResult)
    (groups : SortedMap String (List RunResult)) : Prop where
  mem_keys_iff (trial : String) :
    trial ∈ groups.keys ↔ ∃ result ∈ results, result.trial = trial
  ascending : groups.keys.Pairwise fun left right ↦ Text.bytes left < Text.bytes right
  ne_nil : ∀ entry ∈ groups.entries, entry.2 ≠ []
  trial_eq : ∀ entry ∈ groups.entries, ∀ result ∈ entry.2, result.trial = entry.1
  ordered : IsOrdered results (groups.entries.flatMap (·.2))
  stablySorted : groups.entries.flatMap (·.2) = RunResult.stablySorted results

/-- A trial has a group because one of its results is in it. -/
theorem ne_nil_of_mem_entries_groupByTrial {results group : List RunResult} {trial : String}
    (h : (trial, group) ∈ (groupByTrial results).entries) : group ≠ [] := by
  have hkey : trial ∈ trialsOf results := by
    rw [← keys_groupByTrial]
    exact List.mem_map_of_mem h
  obtain ⟨result, hresult, htrial⟩ := mem_trialsOf.1 hkey
  have hmem : result ∈ results.filter (·.trial = trial) := by simp [hresult, htrial]
  exact List.ne_nil_of_mem ((perm_of_mem_entries_groupByTrial h).mem_iff.2 hmem)

/-- Grouping by trial is a stable sort by trial and run, cut where the trial changes. -/
theorem isStablePartition_groupByTrial (results : List RunResult) :
    IsStablePartition results (groupByTrial results) where
  mem_keys_iff trial := by rw [keys_groupByTrial, mem_trialsOf]
  ascending := by
    rw [keys_groupByTrial]
    exact (pairwise_trialsOf results).imp Text.compare_eq_lt_iff_bytes_lt.1
  ne_nil _ := ne_nil_of_mem_entries_groupByTrial
  trial_eq _ hentry _ hresult := trial_of_mem_group hentry hresult
  ordered := isOrdered_reportOrder results
  stablySorted := (isOrdered_reportOrder results).unique (RunResult.isOrdered_stablySorted results)

end TrialSeries
