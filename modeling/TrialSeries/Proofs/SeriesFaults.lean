import Mathlib.Order.Bounds.Basic
import TrialSeries.Proofs.ByteOrder
import TrialSeries.Proofs.SeriesChecks

/-!
# Faults of a run

A run is refused for its first fault: a metric that some block lacks comes before blocks of differing
kinds, these before vectors that may not be cut, and these before metrics that are too short. Among
the blocks with the same kind of fault the first one counts, and in a block the least name, in the
order of the encodings. A run without a fault has a series.
-/

namespace TrialSeries.Aggregation

/-! ## What can be wrong -/

/-- A metric of the run is absent from a block. -/
def Lacks (blocks : List Block) (block : Block) (name : String) : Prop :=
  (∃ other ∈ blocks, name ∈ other.metrics.keys) ∧ name ∉ block.metrics.keys

/-- A metric of a block has fewer values than there are positions. -/
def FallsShort (width : Nat) (block : Block) (name : String) : Prop :=
  ∃ values, block.metrics.get? name = some values ∧ values.length < width

/-- Every block has every metric of the run. -/
def IsComplete (blocks : List Block) : Prop :=
  ∀ block ∈ blocks, ∀ other ∈ blocks, ∀ name ∈ other.metrics.keys, name ∈ block.metrics.keys

/-- The lengths of the axes of a run. -/
def axisLengths (blocks : List Block) : Set Nat :=
  {length | ∃ block ∈ blocks, block.axis.length = length}

/-- The fault for which a run is refused. -/
inductive Fault (alignment : Alignment) (blocks : List Block) : SeriesError → Prop where
  | missingMetric {place : Nat} {block : Block} {name : String}
      (first : IsFirst (fun block ↦ ∃ name, Lacks blocks block name) blocks place block)
      (least : Text.IsLeast (Lacks blocks block) name) :
      Fault alignment blocks (.missingMetric place name)
  | mixedAxes {head block : Block} {place : Nat}
      (complete : IsComplete blocks) (start : blocks.head? = some head)
      (first : IsFirst (fun block ↦ block.axis.isVector ≠ head.axis.isVector) blocks place block) :
      Fault alignment blocks (.mixedAxes place)
  | raggedVectors {shortest longest : Nat}
      (complete : IsComplete blocks) (vectors : ∀ block ∈ blocks, block.axis.isVector = true)
      (least : IsLeast (axisLengths blocks) shortest)
      (greatest : IsGreatest (axisLengths blocks) longest)
      (ragged : shortest < longest) (refused : alignment = .reject) :
      Fault alignment blocks (.raggedVectors shortest longest)
  | misalignedMetric {width place : Nat} {block : Block} {name : String} {values : List Binary64}
      (complete : IsComplete blocks) (vectors : ∀ block ∈ blocks, block.axis.isVector = true)
      (least : IsLeast (axisLengths blocks) width)
      (aligned : alignment = .reject → ∀ block ∈ blocks, block.axis.length = width)
      (first : IsFirst (fun block ↦ ∃ name, FallsShort width block name) blocks place block)
      (shortName : Text.IsLeast (FallsShort width block) name)
      (found : block.metrics.get? name = some values) :
      Fault alignment blocks (.misalignedMetric place name width values.length)

/-! ## The first block with a defect -/

theorem firstDefect_eq_some_iff {α β : Type} {defect : α → Option β} {start place : Nat}
    {members : List α} {found : β} :
    firstDefect defect start members = some (place, found) ↔
      ∃ offset member, IsFirst (fun member ↦ ∃ found, defect member = some found) members offset
        member ∧ start + offset = place ∧ defect member = some found := by
  induction members generalizing start with
  | nil => simp [firstDefect, IsFirst]
  | cons head rest ih =>
    rw [firstDefect, exists_isFirst_cons]
    cases defect head with
    | some _ => simp
    | none => simp [ih, Nat.add_assoc, Nat.add_comm 1]

theorem firstDefect_zero_eq_some_iff {α β : Type} {defect : α → Option β} {bad : α → Prop}
    {members : List α} {place : Nat} {found : β}
    (h : ∀ member ∈ members, (∃ found, defect member = some found) ↔ bad member) :
    firstDefect defect 0 members = some (place, found) ↔
      ∃ member, IsFirst bad members place member ∧ defect member = some found := by
  simp only [firstDefect_eq_some_iff, isFirst_congr h, Nat.zero_add]
  constructor
  · intro hfirst
    rcases hfirst with ⟨_, member, hmember, rfl, hfound⟩
    exact ⟨member, hmember, hfound⟩
  · intro hfirst
    rcases hfirst with ⟨member, hmember, hfound⟩
    exact ⟨place, member, hmember, rfl, hfound⟩

theorem pairwise_metricNames (blocks : List Block) :
    (metricNames blocks).Pairwise fun left right ↦ compare left right = .lt :=
  pairwise_ascendingDistinct _

/-! ## Missing metrics -/

theorem checkNames_eq_ok_iff_isComplete {blocks : List Block} :
    checkNames (metricNames blocks) blocks = .ok () ↔ IsComplete blocks := by
  rw [checkNames_eq_ok_iff]
  simp only [mem_metricNames, IsComplete]
  constructor
  · intro h block hblock other hother name hname
    exact h block hblock name ⟨other, hother, hname⟩
  · intro h block hblock name hname
    obtain ⟨other, hother, hname⟩ := hname
    exact h block hblock other hother name hname

theorem missingName?_eq_some_iff {blocks : List Block} {block : Block} {name : String} :
    missingName? (metricNames blocks) block = some name ↔
      Text.IsLeast (Lacks blocks block) name := by
  have hlacks : (fun name ↦ name ∈ metricNames blocks ∧ (!block.metrics.contains name) = true) =
      Lacks blocks block := by
    funext name
    rw [mem_metricNames, Lacks, Bool.not_eq_true', ← Bool.not_eq_true, SortedMap.contains_iff]
  rw [missingName?, Text.find?_eq_some_iff_isLeast (pairwise_metricNames blocks), hlacks]

theorem exists_missingName?_eq_some_iff {blocks : List Block} {block : Block} :
    (∃ name, missingName? (metricNames blocks) block = some name) ↔
      ∃ name, Lacks blocks block name := by
  rw [← Option.isSome_iff_exists, missingName?, List.find?_isSome]
  simp only [mem_metricNames, Lacks, Bool.not_eq_true', ← Bool.not_eq_true, SortedMap.contains_iff]

theorem checkNames_eq_error_iff {blocks : List Block} {error : SeriesError} :
    checkNames (metricNames blocks) blocks = .error error ↔
      ∃ place block name, IsFirst (fun block ↦ ∃ name, Lacks blocks block name) blocks place block ∧
        Text.IsLeast (Lacks blocks block) name ∧ .missingMetric place name = error := by
  have hreport : checkNames (metricNames blocks) blocks = .error error ↔
      ∃ place name, firstDefect (missingName? (metricNames blocks)) 0 blocks = some (place, name) ∧
        .missingMetric place name = error := by
    unfold checkNames
    cases firstDefect (missingName? (metricNames blocks)) 0 blocks <;> simp [Prod.ext_iff]
  rw [hreport]
  simp only [firstDefect_zero_eq_some_iff fun _ _ ↦ exists_missingName?_eq_some_iff,
    missingName?_eq_some_iff]
  constructor
  · intro h
    rcases h with ⟨place, name, ⟨block, hfirst, hleast⟩, herror⟩
    exact ⟨place, block, name, hfirst, hleast, herror⟩
  · intro h
    rcases h with ⟨place, block, name, hfirst, hleast, herror⟩
    exact ⟨place, name, ⟨block, hfirst, hleast⟩, herror⟩

/-! ## Kinds of blocks -/

theorem checkAxes_eq_error_iff {blocks : List Block} {error : SeriesError} :
    checkAxes blocks = .error error ↔
      ∃ head place block, blocks.head? = some head ∧
        IsFirst (fun block ↦ block.axis.isVector ≠ head.axis.isVector) blocks place block ∧
        .mixedAxes place = error := by
  cases blocks with
  | nil => simp [checkAxes, firstDefect]
  | cons head rest =>
    have hkind : isVectorRun (head :: rest) = head.axis.isVector := by simp [isVectorRun]
    have hbad : ∀ block ∈ head :: rest,
        (∃ found, (if block.axis.isVector = head.axis.isVector then none else some ()) =
          some found) ↔ block.axis.isVector ≠ head.axis.isVector := by simp
    have hfirst (place : Nat) : firstDefect
        (fun block ↦ if block.axis.isVector = head.axis.isVector then none else some ()) 0
        (head :: rest) = some (place, ()) ↔
          ∃ block, IsFirst (fun block ↦ block.axis.isVector ≠ head.axis.isVector) (head :: rest)
            place block := by
      rw [firstDefect_zero_eq_some_iff hbad]
      apply exists_congr
      intro block
      rw [and_iff_left_iff_imp]
      intro hblock
      rw [if_neg hblock.2.1]
    have hreport : checkAxes (head :: rest) = .error error ↔
        ∃ place, firstDefect
          (fun block ↦ if block.axis.isVector = head.axis.isVector then none else some ()) 0
          (head :: rest) = some (place, ()) ∧ .mixedAxes place = error := by
      simp only [checkAxes, hkind]
      cases firstDefect _ 0 (head :: rest) <;> simp [Prod.ext_iff]
    rw [hreport]
    constructor
    · intro h
      rcases h with ⟨place, hplace, herror⟩
      obtain ⟨block, hblock⟩ := (hfirst place).1 hplace
      exact ⟨head, place, block, rfl, hblock, herror⟩
    · intro h
      rcases h with ⟨_, place, block, ⟨⟩, hblock, herror⟩
      exact ⟨place, (hfirst place).2 ⟨block, hblock⟩, herror⟩

/-! ## Lengths of vectors -/

theorem isLeast_shortest {blocks : List Block} (hne : blocks ≠ []) :
    IsLeast (axisLengths blocks) (shortest blocks) := by
  cases hshortest : (lengths blocks).min? with
  | none => simp [lengths, hne] at hshortest
  | some least =>
    rw [shortest, hshortest, Option.getD_some]
    simpa [IsLeast, lowerBounds, axisLengths, lengths] using List.min?_eq_some_iff.1 hshortest

theorem isGreatest_longest {blocks : List Block} (hne : blocks ≠ []) :
    IsGreatest (axisLengths blocks) (longest blocks) := by
  cases hlongest : (lengths blocks).max? with
  | none => simp [lengths, hne] at hlongest
  | some greatest =>
    rw [longest, hlongest, Option.getD_some]
    simpa [IsGreatest, upperBounds, axisLengths, lengths] using List.max?_eq_some_iff.1 hlongest

theorem shortest_le_longest (blocks : List Block) : shortest blocks ≤ longest blocks := by
  by_cases hne : blocks = []
  · subst hne
    rfl
  · exact (isLeast_shortest hne).2 (isGreatest_longest hne).1

theorem checkLengths_eq_error_iff {alignment : Alignment} {blocks : List Block}
    {error : SeriesError} (hne : blocks ≠ []) :
    checkLengths alignment blocks = .error error ↔
      ∃ shortest longest, IsLeast (axisLengths blocks) shortest ∧
        IsGreatest (axisLengths blocks) longest ∧ shortest < longest ∧ alignment = .reject ∧
        .raggedVectors shortest longest = error := by
  have hleast := isLeast_shortest hne
  have hgreatest := isGreatest_longest hne
  have hle := shortest_le_longest blocks
  unfold checkLengths
  constructor
  · intro h
    split at h
    · rename_i hragged
      exact ⟨_, _, hleast, hgreatest, by omega, hragged.2, by simpa using h⟩
    · cases h
  · intro h
    rcases h with ⟨low, high, hlow, hhigh, hlt, hreject, rfl⟩
    obtain rfl := hlow.unique hleast
    obtain rfl := hhigh.unique hgreatest
    rw [if_pos ⟨by omega, hreject⟩]

/-! ## Short metrics -/

theorem fallsShort_iff {width : Nat} {block : Block} {name : String} :
    FallsShort width block name ↔
      name ∈ block.metrics.keys ∧ (block.valuesOf name).length < width := by
  rw [SortedMap.mem_keys_iff, FallsShort, Block.valuesOf]
  cases block.metrics.get? name <;> simp

theorem shortMetric?_eq_some_iff {names : List String} {width found : Nat} {block : Block}
    {name : String} (hascending : names.Pairwise fun left right ↦ compare left right = .lt)
    (hnames : ∀ name, name ∈ names ↔ name ∈ block.metrics.keys) :
    shortMetric? names width block = some (name, found) ↔
      Text.IsLeast (FallsShort width block) name ∧
        ∃ values, block.metrics.get? name = some values ∧ values.length = found := by
  have hshort : (fun name ↦ name ∈ names ∧ decide ((block.valuesOf name).length < width) = true) =
      FallsShort width block := by
    funext name
    rw [hnames, fallsShort_iff, decide_eq_true_eq]
  rw [shortMetric?, Option.map_eq_some_iff]
  simp only [Text.find?_eq_some_iff_isLeast hascending, hshort, Prod.mk.injEq]
  constructor
  · intro h
    rcases h with ⟨_, hleast, rfl, rfl⟩
    obtain ⟨values, hvalues, -⟩ := hleast.1
    exact ⟨hleast, values, hvalues, by rw [Block.valuesOf, hvalues, Option.getD_some]⟩
  · intro h
    rcases h with ⟨hleast, values, hvalues, rfl⟩
    exact ⟨name, hleast, rfl, by rw [Block.valuesOf, hvalues, Option.getD_some]⟩

theorem exists_shortMetric?_eq_some_iff {names : List String} {width : Nat} {block : Block}
    (hnames : ∀ name, name ∈ names ↔ name ∈ block.metrics.keys) :
    (∃ found, shortMetric? names width block = some found) ↔
      ∃ name, FallsShort width block name := by
  rw [← Option.isSome_iff_exists, shortMetric?, Option.isSome_map, List.find?_isSome]
  simp only [hnames, fallsShort_iff, decide_eq_true_eq]

/-- In a run whose blocks have all metrics, the metrics of a block are those of the run. -/
theorem IsComplete.mem_metricNames_iff {blocks : List Block} (h : IsComplete blocks) {block : Block}
    (hblock : block ∈ blocks) (name : String) :
    name ∈ metricNames blocks ↔ name ∈ block.metrics.keys := by
  rw [mem_metricNames]
  constructor
  · intro hname
    rcases hname with ⟨other, hother, hname⟩
    exact h block hblock other hother name hname
  · intro hname
    exact ⟨block, hblock, hname⟩

theorem checkValues_eq_error_iff {blocks : List Block} {width : Nat} {error : SeriesError}
    (hcomplete : IsComplete blocks) :
    checkValues (metricNames blocks) width blocks = .error error ↔
      ∃ place block name values,
        IsFirst (fun block ↦ ∃ name, FallsShort width block name) blocks place block ∧
        Text.IsLeast (FallsShort width block) name ∧ block.metrics.get? name = some values ∧
        .misalignedMetric place name width values.length = error := by
  have hreport : checkValues (metricNames blocks) width blocks = .error error ↔
      ∃ place name found,
        firstDefect (shortMetric? (metricNames blocks) width) 0 blocks = some (place, name, found) ∧
        .misalignedMetric place name width found = error := by
    unfold checkValues
    cases firstDefect (shortMetric? (metricNames blocks) width) 0 blocks <;> simp [Prod.ext_iff]
  have hexists : ∀ block ∈ blocks,
      (∃ found, shortMetric? (metricNames blocks) width block = some found) ↔
        ∃ name, FallsShort width block name := by
    intro block hblock
    exact exists_shortMetric?_eq_some_iff (hcomplete.mem_metricNames_iff hblock)
  have hdefect {place : Nat} {block : Block} {name : String} {found : Nat}
      (hfirst : IsFirst (fun block ↦ ∃ name, FallsShort width block name) blocks place block) :
      shortMetric? (metricNames blocks) width block = some (name, found) ↔
        Text.IsLeast (FallsShort width block) name ∧
          ∃ values, block.metrics.get? name = some values ∧ values.length = found :=
    shortMetric?_eq_some_iff (pairwise_metricNames blocks)
      (hcomplete.mem_metricNames_iff hfirst.mem)
  rw [hreport]
  simp only [firstDefect_zero_eq_some_iff hexists]
  constructor
  · intro h
    rcases h with ⟨place, name, found, ⟨block, hfirst, hshort⟩, herror⟩
    obtain ⟨hleast, values, hvalues, rfl⟩ := (hdefect hfirst).1 hshort
    exact ⟨place, block, name, values, hfirst, hleast, hvalues, herror⟩
  · intro h
    rcases h with ⟨place, block, name, values, hfirst, hleast, hvalues, herror⟩
    exact ⟨place, name, values.length,
      ⟨block, hfirst, (hdefect hfirst).2 ⟨hleast, values, hvalues, rfl⟩⟩, herror⟩

/-! ## The first fault -/

theorem check_eq_error_iff {alignment : Alignment} {blocks : List Block} {error : SeriesError} :
    check alignment blocks = .error error ↔
      checkNames (metricNames blocks) blocks = .error error ∨
      (checkNames (metricNames blocks) blocks = .ok () ∧
        (checkAxes blocks = .error error ∨
        (checkAxes blocks = .ok () ∧ isVectorRun blocks = true ∧
          (checkLengths alignment blocks = .error error ∨
          (checkLengths alignment blocks = .ok () ∧
            checkValues (metricNames blocks) (shortest blocks) blocks = .error error))))) := by
  unfold check
  cases checkNames (metricNames blocks) blocks with
  | error found => simp [bind, Except.bind]
  | ok _ =>
    cases checkAxes blocks with
    | error found => simp [bind, Except.bind]
    | ok _ =>
      cases isVectorRun blocks with
      | false => simp [bind, Except.bind, pure, Except.pure]
      | true => cases checkLengths alignment blocks <;> simp [bind, Except.bind]

/-- Blocks that are all along vectors form a run along vectors, and no others do. -/
theorem isVectorRun_and_uniform_iff {blocks : List Block} (hne : blocks ≠ []) :
    (checkAxes blocks = .ok () ∧ isVectorRun blocks = true) ↔
      ∀ block ∈ blocks, block.axis.isVector = true := by
  rw [checkAxes_eq_ok_iff]
  constructor
  · intro h block hblock
    rw [h.1 block hblock, h.2]
  · intro h
    have hkind := isVectorRun_eq hne h
    exact ⟨fun block hblock ↦ (h block hblock).trans hkind.symm, hkind⟩

theorem checkLengths_eq_ok_iff_aligned {alignment : Alignment} {blocks : List Block} {width : Nat}
    (hne : blocks ≠ []) (hleast : IsLeast (axisLengths blocks) width) :
    checkLengths alignment blocks = .ok () ↔
      (alignment = .reject → ∀ block ∈ blocks, block.axis.length = width) := by
  obtain rfl := hleast.unique (isLeast_shortest hne)
  obtain ⟨⟨block, hblock, hlongest⟩, hgreatest⟩ := isGreatest_longest hne
  rw [checkLengths_eq_ok_iff, or_iff_not_imp_right, not_not]
  apply imp_congr_right
  intro _
  constructor
  · intro heq other hother
    exact le_antisymm (heq ▸ hgreatest ⟨other, hother, rfl⟩) (hleast.2 ⟨other, hother, rfl⟩)
  · intro haligned
    rw [← hlongest, haligned block hblock]

theorem check_eq_error_iff_fault {alignment : Alignment} {blocks : List Block}
    {error : SeriesError} (hne : blocks ≠ []) :
    check alignment blocks = .error error ↔ Fault alignment blocks error := by
  rw [check_eq_error_iff, checkNames_eq_ok_iff_isComplete]
  constructor
  · intro h
    rcases h with hnames | ⟨hcomplete, haxes | ⟨haxes, hvector, hrest⟩⟩
    · obtain ⟨place, block, name, hfirst, hleast, rfl⟩ := checkNames_eq_error_iff.1 hnames
      exact .missingMetric hfirst hleast
    · obtain ⟨head, place, block, hhead, hfirst, rfl⟩ := checkAxes_eq_error_iff.1 haxes
      exact .mixedAxes hcomplete hhead hfirst
    · have hvectors := (isVectorRun_and_uniform_iff hne).1 ⟨haxes, hvector⟩
      rcases hrest with hlengths | ⟨hlengths, hvalues⟩
      · obtain ⟨low, high, hlow, hhigh, hlt, hreject, rfl⟩ := (checkLengths_eq_error_iff hne).1 hlengths
        exact .raggedVectors hcomplete hvectors hlow hhigh hlt hreject
      · obtain ⟨place, block, name, values, hfirst, hleast, hfound, rfl⟩ :=
          (checkValues_eq_error_iff hcomplete).1 hvalues
        have haligned := (checkLengths_eq_ok_iff_aligned hne (isLeast_shortest hne)).1 hlengths
        exact .misalignedMetric hcomplete hvectors (isLeast_shortest hne) haligned hfirst hleast hfound
  · intro h
    cases h with
    | missingMetric hfirst hleast =>
      exact .inl (checkNames_eq_error_iff.2 ⟨_, _, _, hfirst, hleast, rfl⟩)
    | mixedAxes hcomplete hhead hfirst =>
      exact .inr ⟨hcomplete, .inl (checkAxes_eq_error_iff.2 ⟨_, _, _, hhead, hfirst, rfl⟩)⟩
    | raggedVectors hcomplete hvectors hlow hhigh hlt hreject =>
      obtain ⟨haxes, hvector⟩ := (isVectorRun_and_uniform_iff hne).2 hvectors
      exact .inr ⟨hcomplete, .inr ⟨haxes, hvector,
        .inl ((checkLengths_eq_error_iff hne).2 ⟨_, _, hlow, hhigh, hlt, hreject, rfl⟩)⟩⟩
    | misalignedMetric hcomplete hvectors hwidth haligned hfirst hleast hfound =>
      obtain ⟨haxes, hvector⟩ := (isVectorRun_and_uniform_iff hne).2 hvectors
      have hlengths := (checkLengths_eq_ok_iff_aligned hne hwidth).2 haligned
      obtain rfl := hwidth.unique (isLeast_shortest hne)
      have hvalues := (checkValues_eq_error_iff hcomplete).2
        ⟨_, _, _, _, hfirst, hleast, hfound, rfl⟩
      exact .inr ⟨hcomplete, .inr ⟨haxes, hvector, .inr ⟨hlengths, hvalues⟩⟩⟩

theorem not_fault_nil {alignment : Alignment} {error : SeriesError} : ¬ Fault alignment [] error := by
  intro h
  cases h with
  | missingMetric hfirst _ => cases hfirst.1
  | mixedAxes _ hhead _ => cases hhead
  | raggedVectors _ _ hlow _ _ _ => simpa [axisLengths] using hlow.1
  | misalignedMetric _ _ _ _ hfirst _ _ => cases hfirst.1

/-- A run is refused for its fault and for nothing else. -/
theorem ofBlocks_eq_error_iff_fault {alignment : Alignment} {blocks : List Block}
    {error : SeriesError} :
    Series.ofBlocks alignment blocks = .error error ↔ Fault alignment blocks error := by
  by_cases hne : blocks = []
  · subst hne
    simp [Series.ofBlocks, not_fault_nil]
  · rw [Series.ofBlocks, if_neg hne, map_eq_error_iff, check_eq_error_iff_fault hne]

end TrialSeries.Aggregation
