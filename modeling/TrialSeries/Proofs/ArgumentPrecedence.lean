import Mathlib.Data.List.Induction
import TrialSeries.ConfigurationFile

/-!
# Precedence of arguments

Arguments are put over a configuration one after the other. The output, the alignment and the
precision are then what the last arguments to give them say, and the flag for a longer log is set if
anything sets it; the rules and the list of failed runs are what they were. So arguments that come
twice do not count twice, and what a configuration says does not matter where arguments say more.
-/

namespace TrialSeries.Configuration

/-- The configuration under some arguments, one after the other. -/
def withAllArguments (configuration : Configuration) (sequence : List Arguments) : Configuration :=
  sequence.foldl withArguments configuration

theorem withAllArguments_append (configuration : Configuration) (front back : List Arguments) :
    withAllArguments configuration (front ++ back) =
      withAllArguments (withAllArguments configuration front) back :=
  List.foldl_append

/-! ## One setting -/

/-- A setting is what the last arguments to give it say, and stays what it was if none do. -/
inductive IsSettled {α : Type} (given : Arguments → Option α) (sequence : List Arguments)
    (original : α) : α → Prop
  | given {front back : List Arguments} {arguments : Arguments} {value : α}
      (hsequence : sequence = front ++ arguments :: back)
      (hgiven : given arguments = some value)
      (hlater : ∀ later ∈ back, given later = none) :
      IsSettled given sequence original value
  | kept (hnone : ∀ arguments ∈ sequence, given arguments = none) :
      IsSettled given sequence original original

namespace IsSettled

variable {α : Type} {given : Arguments → Option α} {sequence : List Arguments}
  {original value : α}

/-- Further arguments replace the value only if they give one. -/
theorem append_singleton (h : IsSettled given sequence original value) (last : Arguments) :
    IsSettled given (sequence ++ [last]) original ((given last).getD value) := by
  cases hlast : given last with
  | some found => exact .given rfl hlast (List.forall_mem_nil _)
  | none =>
    cases h with
    | given hsequence hgiven hlater =>
      refine .given (by rw [hsequence, List.append_assoc, List.cons_append]) hgiven ?_
      intro later hmem
      rcases List.mem_append.1 hmem with hmem | hmem
      · exact hlater later hmem
      · rw [List.mem_singleton.1 hmem, hlast]
    | kept hnone =>
      refine .kept ?_
      intro arguments hmem
      rcases List.mem_append.1 hmem with hmem | hmem
      · exact hnone arguments hmem
      · rw [List.mem_singleton.1 hmem, hlast]

theorem eq_original (h : IsSettled given sequence original value)
    (hnone : ∀ arguments ∈ sequence, given arguments = none) : value = original := by
  cases h with
  | given hsequence hgiven _ =>
    have hmem := hnone _ (by rw [hsequence]; exact List.mem_append_right _ List.mem_cons_self)
    cases hgiven.symm.trans hmem
  | kept _ => rfl

/-- Another original leads to the same value, unless nothing is given. -/
theorem of_original_eq {other : α} (h : IsSettled given sequence original value)
    (heq : (∀ arguments ∈ sequence, given arguments = none) → original = other) :
    IsSettled given sequence other value := by
  cases h with
  | given hsequence hgiven hlater => exact .given hsequence hgiven hlater
  | kept hnone =>
    rw [heq hnone]
    exact .kept hnone

/-- From the end of the sequence on, the first value that is given is the one that counts. -/
theorem eq_findSome? (h : IsSettled given sequence original value) :
    value = (sequence.reverse.findSome? given).getD original := by
  cases h with
  | @given front back arguments _ hsequence hgiven hlater =>
    have hfound : sequence.reverse.findSome? given = some value := by
      rw [List.findSome?_eq_some_iff]
      exact ⟨back.reverse, arguments, front.reverse, by simp [hsequence], hgiven,
        by simpa using hlater⟩
    rw [hfound, Option.getD_some]
  | kept hnone =>
    have hfound : sequence.reverse.findSome? given = none := by
      simpa [List.findSome?_eq_none_iff] using hnone
    rw [hfound, Option.getD_none]

theorem unique {other : α} (h : IsSettled given sequence original value)
    (hother : IsSettled given sequence original other) : value = other := by
  rw [h.eq_findSome?, hother.eq_findSome?]

end IsSettled

/-! ## All settings -/

/-- A configuration under some arguments: three settings are replaced by what the last arguments to
give them say, a flag is raised, and nothing else changes. -/
structure IsMerged (configuration : Configuration) (sequence : List Arguments)
    (merged : Configuration) : Prop where
  output : IsSettled (·.output.map some) sequence configuration.output merged.output
  alignment : IsSettled (·.alignment) sequence configuration.alignment merged.alignment
  precision : IsSettled (·.precision) sequence configuration.report.precision
    merged.report.precision
  verbose_iff : merged.verbose = true ↔
    configuration.verbose = true ∨ ∃ arguments ∈ sequence, arguments.verbose = true
  table_eq : merged.table = configuration.table
  includeFailed_eq : merged.report.includeFailed = configuration.report.includeFailed

namespace IsMerged

variable {configuration merged : Configuration} {sequence : List Arguments}

theorem nil (configuration : Configuration) : IsMerged configuration [] configuration where
  output := .kept (List.forall_mem_nil _)
  alignment := .kept (List.forall_mem_nil _)
  precision := .kept (List.forall_mem_nil _)
  verbose_iff := by simp
  table_eq := rfl
  includeFailed_eq := rfl

/-- What further arguments do to a configuration that is already merged. -/
theorem withArguments (h : IsMerged configuration sequence merged) (last : Arguments) :
    IsMerged configuration (sequence ++ [last]) (merged.withArguments last) where
  output := by
    have houtput : (merged.withArguments last).output =
        (last.output.map some).getD merged.output := by
      cases hlast : last.output <;> simp [Configuration.withArguments, hlast]
    rw [houtput]
    exact h.output.append_singleton last
  alignment := h.alignment.append_singleton last
  precision := h.precision.append_singleton last
  verbose_iff := by
    have hverbose : (merged.withArguments last).verbose = true ↔
        last.verbose = true ∨ merged.verbose = true := by
      simp [Configuration.withArguments]
    rw [hverbose, h.verbose_iff]
    simp [or_and_right, exists_or, or_comm, or_left_comm]
  table_eq := h.table_eq
  includeFailed_eq := h.includeFailed_eq

theorem unique {other : Configuration} (h : IsMerged configuration sequence merged)
    (hother : IsMerged configuration sequence other) : merged = other := by
  obtain ⟨output, verbose, table, alignment, precision, includeFailed⟩ := merged
  obtain ⟨output', verbose', table', alignment', precision', includeFailed'⟩ := other
  obtain rfl : output = output' := h.output.unique hother.output
  obtain rfl : alignment = alignment' := h.alignment.unique hother.alignment
  obtain rfl : precision = precision' := h.precision.unique hother.precision
  obtain rfl : verbose = verbose' := Bool.eq_iff_iff.2 (h.verbose_iff.trans hother.verbose_iff.symm)
  obtain rfl : table = table' := h.table_eq.trans hother.table_eq.symm
  obtain rfl : includeFailed = includeFailed' :=
    h.includeFailed_eq.trans hother.includeFailed_eq.symm
  rfl

end IsMerged

theorem isMerged_withAllArguments (configuration : Configuration) (sequence : List Arguments) :
    IsMerged configuration sequence (withAllArguments configuration sequence) := by
  induction sequence using List.reverseRecOn with
  | nil => exact .nil configuration
  | append_singleton sequence last ih =>
    rw [withAllArguments_append]
    exact ih.withArguments last

/-! ## Configurations that arguments make equal -/

/-- Two configurations differ at most in settings that some arguments give. -/
structure AgreeBeyond (sequence : List Arguments) (configuration other : Configuration) :
    Prop where
  output : (∀ arguments ∈ sequence, arguments.output = none) →
    configuration.output = other.output
  alignment : (∀ arguments ∈ sequence, arguments.alignment = none) →
    configuration.alignment = other.alignment
  precision : (∀ arguments ∈ sequence, arguments.precision = none) →
    configuration.report.precision = other.report.precision
  verbose : (∀ arguments ∈ sequence, arguments.verbose = false) →
    configuration.verbose = other.verbose
  table_eq : configuration.table = other.table
  includeFailed_eq : configuration.report.includeFailed = other.report.includeFailed

theorem IsMerged.of_agreeBeyond {configuration other merged : Configuration}
    {sequence : List Arguments} (h : IsMerged configuration sequence merged)
    (hagree : AgreeBeyond sequence configuration other) : IsMerged other sequence merged where
  output := by
    apply h.output.of_original_eq
    intro hnone
    exact hagree.output (by simpa using hnone)
  alignment := h.alignment.of_original_eq hagree.alignment
  precision := h.precision.of_original_eq hagree.precision
  verbose_iff := by
    rw [h.verbose_iff]
    by_cases hraised : ∃ arguments ∈ sequence, arguments.verbose = true
    · simp [hraised]
    · have hsame := hagree.verbose (by simpa using hraised)
      rw [hsame]
  table_eq := h.table_eq.trans hagree.table_eq
  includeFailed_eq := h.includeFailed_eq.trans hagree.includeFailed_eq

theorem IsMerged.agreeBeyond {configuration other merged : Configuration}
    {sequence : List Arguments} (h : IsMerged configuration sequence merged)
    (hother : IsMerged other sequence merged) : AgreeBeyond sequence configuration other where
  output hnone := by
    have hkept : ∀ arguments ∈ sequence, arguments.output.map some = none := by simpa using hnone
    rw [← h.output.eq_original hkept, hother.output.eq_original hkept]
  alignment hnone := by
    rw [← h.alignment.eq_original hnone, hother.alignment.eq_original hnone]
  precision hnone := by
    rw [← h.precision.eq_original hnone, hother.precision.eq_original hnone]
  verbose hnone := by
    have hraised : ¬ ∃ arguments ∈ sequence, arguments.verbose = true := by simpa using hnone
    have hverbose := h.verbose_iff.symm.trans hother.verbose_iff
    simpa only [hraised, or_false, ← Bool.eq_iff_iff] using hverbose
  table_eq := h.table_eq.symm.trans hother.table_eq
  includeFailed_eq := h.includeFailed_eq.symm.trans hother.includeFailed_eq

theorem withAllArguments_eq_iff {configuration other : Configuration}
    {sequence : List Arguments} :
    withAllArguments configuration sequence = withAllArguments other sequence ↔
      AgreeBeyond sequence configuration other := by
  have hmerged := isMerged_withAllArguments configuration sequence
  have hother := isMerged_withAllArguments other sequence
  constructor
  · intro heq
    exact hmerged.agreeBeyond (heq ▸ hother)
  · intro hagree
    exact (hmerged.of_agreeBeyond hagree).unique hother

/-- Arguments leave nothing for the same arguments to change. -/
theorem withArguments_withArguments (configuration : Configuration) (arguments : Arguments) :
    (configuration.withArguments arguments).withArguments arguments =
      configuration.withArguments arguments := by
  cases houtput : arguments.output <;> cases halignment : arguments.alignment <;>
    cases hprecision : arguments.precision <;>
    simp [withArguments, houtput, halignment, hprecision]

/-- Arguments over a configuration settle it by the last of them, once for all that come twice, and
they make two configurations equal if and only if these differ in nothing but what they give. -/
theorem settled_by_arguments :
    (∀ configuration sequence,
      IsMerged configuration sequence (withAllArguments configuration sequence)) ∧
    (∀ configuration front arguments back,
      withAllArguments configuration (front ++ arguments :: arguments :: back) =
        withAllArguments configuration (front ++ arguments :: back)) ∧
    ∀ configuration other sequence,
      withAllArguments configuration sequence = withAllArguments other sequence ↔
        AgreeBeyond sequence configuration other := by
  refine ⟨isMerged_withAllArguments, ?_, fun _ _ _ ↦ withAllArguments_eq_iff⟩
  intro configuration front arguments back
  rw [withAllArguments_append, withAllArguments_append]
  simp only [withAllArguments, List.foldl_cons, withArguments_withArguments]

end TrialSeries.Configuration
