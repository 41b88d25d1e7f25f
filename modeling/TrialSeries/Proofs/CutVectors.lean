import TrialSeries.Proofs.ValueCounts

/-!
# Cutting vectors beforehand

Vectors of differing length are aligned by not going on beyond the shortest one. This is the same as
to cut all vectors and the values that go with them before they are aggregated: what was cut has the
same series, or is refused for the same fault, even where no vector may be cut any more. Where all
vectors have one length, there is nothing to align.
-/

namespace TrialSeries

/-- The axis with at most so many positions of a vector. -/
def Axis.cut (width : Nat) : Axis → Axis
  | point setting => .point setting
  | positions values => .positions (values.take width)

/-- The block with its vector and the values of each metric cut to a width. -/
def Block.cut (width : Nat) (block : Block) : Block :=
  ⟨block.axis.cut width, block.metrics.mapValues fun _ values ↦ values.take width⟩

namespace Block

variable {width : Nat} {block : Block}

@[simp] theorem isVector_cut : (block.cut width).axis.isVector = block.axis.isVector := by
  cases block with
  | mk axis metrics => cases axis <;> rfl

theorem length_cut (hvector : block.axis.isVector = true) :
    (block.cut width).axis.length = min width block.axis.length := by
  obtain ⟨axis, metrics⟩ := block
  cases axis with
  | point setting => simp [Axis.isVector] at hvector
  | positions values => exact List.length_take

@[simp] theorem keys_cut : (block.cut width).metrics.keys = block.metrics.keys :=
  SortedMap.keys_mapValues _ _

theorem valuesOf_cut (name : String) :
    (block.cut width).valuesOf name = (block.valuesOf name).take width := by
  rw [valuesOf, valuesOf, cut, SortedMap.get?_mapValues]
  cases block.metrics.get? name with
  | none => simp
  | some values => rfl

end Block

namespace Aggregation

/-! ## Checks of what was cut -/

theorem firstDefect_map {α β γ : Type} (f : α → β) (defect : β → Option γ) (place : Nat)
    (members : List α) :
    firstDefect defect place (members.map f) =
      firstDefect (fun member ↦ defect (f member)) place members := by
  induction members generalizing place with
  | nil => rfl
  | cons head rest ih => rw [List.map_cons, firstDefect, firstDefect, ih]

section Checks

variable (width : Nat) (blocks : List Block)

theorem metricNames_cut : metricNames (blocks.map (Block.cut width)) = metricNames blocks := by
  simp [metricNames, List.flatMap_map]

theorem checkNames_cut (names : List String) :
    checkNames names (blocks.map (Block.cut width)) = checkNames names blocks := by
  have hmissing (block : Block) :
      missingName? names (block.cut width) = missingName? names block := by
    have hcontains (name : String) :
        (block.cut width).metrics.contains name = block.metrics.contains name := by
      rw [Bool.eq_iff_iff, SortedMap.contains_iff, SortedMap.contains_iff, Block.keys_cut]
    simp only [missingName?, hcontains]
  simp only [checkNames, firstDefect_map, hmissing]

theorem isVectorRun_cut : isVectorRun (blocks.map (Block.cut width)) = isVectorRun blocks := by
  cases blocks <;> simp [isVectorRun]

theorem checkAxes_cut : checkAxes (blocks.map (Block.cut width)) = checkAxes blocks := by
  simp only [checkAxes, firstDefect_map, isVectorRun_cut, Block.isVector_cut]

/-- A metric is too short for the positions exactly if it is so after the cut, which leaves its
number of values as it is. -/
theorem checkValues_cut (names : List String) :
    checkValues names width (blocks.map (Block.cut width)) = checkValues names width blocks := by
  have hshort (block : Block) :
      shortMetric? names width (block.cut width) = shortMetric? names width block := by
    have htest (name : String) :
        decide (((block.cut width).valuesOf name).length < width) =
          decide ((block.valuesOf name).length < width) := by
      rw [Block.valuesOf_cut, List.length_take]
      simp
    simp only [shortMetric?, htest]
    cases hfind : names.find? fun name ↦ decide ((block.valuesOf name).length < width) with
    | none => rfl
    | some name =>
      have hlt : (block.valuesOf name).length < width := by simpa using List.find?_some hfind
      rw [Option.map_some, Option.map_some, Block.valuesOf_cut, List.length_take,
        Nat.min_eq_right hlt.le]
  simp only [checkValues, firstDefect_map, hshort]

end Checks

/-! ## The width -/

section Width

variable {blocks : List Block} {width : Nat}

theorem checkLengths_truncate (blocks : List Block) : checkLengths .truncate blocks = .ok () :=
  checkLengths_eq_ok_iff.2 (.inr nofun)

theorem checkLengths_of_uniform (hne : blocks ≠ [])
    (h : ∀ block ∈ blocks, ∀ other ∈ blocks, block.axis.length = other.axis.length)
    (alignment : Alignment) : checkLengths alignment blocks = .ok () := by
  obtain ⟨short, hshort, hleast⟩ := (isLeast_shortest hne).1
  obtain ⟨long, hlong, hgreatest⟩ := (isGreatest_longest hne).1
  apply checkLengths_eq_ok_iff.2
  left
  rw [← hleast, ← hgreatest]
  exact h short hshort long hlong

theorem length_of_mem_cut (hvectors : ∀ block ∈ blocks, block.axis.isVector = true)
    (hleast : IsLeast (axisLengths blocks) width) :
    ∀ block ∈ blocks.map (Block.cut width), block.axis.length = width := by
  rw [List.forall_mem_map]
  intro block hblock
  rw [Block.length_cut (hvectors block hblock)]
  exact Nat.min_eq_left (hleast.2 ⟨block, hblock, rfl⟩)

theorem shortest_eq (hne : blocks ≠ []) (h : ∀ block ∈ blocks, block.axis.length = width) :
    shortest blocks = width := by
  obtain ⟨block, hblock, hlength⟩ := (isLeast_shortest hne).1
  rw [← hlength, h block hblock]

end Width

/-! ## The outcome -/

/-- A block gives the same observations after it was cut to the width of the observations. -/
theorem observations_cut (width : Nat) (block : Block) (h : block.axis.isVector = true) :
    observations width (block.cut width) = observations width block := by
  cases haxis : block.axis with
  | point setting => simp [haxis, Axis.isVector] at h
  | positions values =>
    simp only [observations, Block.cut, haxis, Axis.cut, List.take_take, min_self]
    apply List.map_congr_left
    intro pair hpair
    have hplace : pair.2 < width := by
      have hlt : pair.2 < (values.take width).length := by
        simpa using (List.mem_zipIdx hpair).2.1
      rw [List.length_take] at hlt
      omega
    have hvalue (recorded : List Binary64) :
        ((recorded.take width).drop pair.2).take 1 = (recorded.drop pair.2).take 1 := by
      rw [List.drop_take, List.take_take, Nat.min_eq_left (by omega)]
    simp only [positionAt, SortedMap.mapValues, List.map_map, Function.comp_def, hvalue]

section Outcome

variable {blocks : List Block} {width : Nat} (hne : blocks ≠ [])
  (hvectors : ∀ block ∈ blocks, block.axis.isVector = true)
  (hleast : IsLeast (axisLengths blocks) width)

include hne hvectors hleast

theorem check_cut :
    check .reject (blocks.map (Block.cut width)) = check .truncate blocks := by
  have hlengths := length_of_mem_cut hvectors hleast
  have hwidth := shortest_eq (by simpa using hne) hlengths
  have haligned : checkLengths .reject (blocks.map (Block.cut width)) = .ok () := by
    apply checkLengths_of_uniform (by simpa using hne)
    intro block hblock other hother
    rw [hlengths block hblock, hlengths other hother]
  have hshortest : shortest blocks = width := (isLeast_shortest hne).unique hleast
  simp only [check, metricNames_cut, checkNames_cut, checkAxes_cut, isVectorRun_cut, haligned,
    checkLengths_truncate, hwidth, hshortest, checkValues_cut]

theorem collect_cut :
    collect (blocks.map (Block.cut width)) = { collect blocks with truncated := 0 } := by
  have hne' : blocks.map (Block.cut width) ≠ [] := by simpa using hne
  have hvectors' : ∀ block ∈ blocks.map (Block.cut width), block.axis.isVector = true := by
    simpa using hvectors
  have hlengths := length_of_mem_cut hvectors hleast
  have hwidth := shortest_eq hne' hlengths
  have huncut : surplus (blocks.map (Block.cut width)) = 0 := by
    rw [surplus_eq_zero_iff, hwidth]
    exact hlengths
  have hobservations : (blocks.map (Block.cut width)).flatMap (observations width) =
      blocks.flatMap (observations width) := by
    rw [List.flatMap_map]
    exact List.flatMap_congr fun block hblock ↦ observations_cut width block (hvectors block hblock)
  rw [collect_of_vectors hne' hvectors', collect_of_vectors hne hvectors, metricNames_cut, hwidth,
    huncut, hobservations, hleast.unique (isLeast_shortest hne)]
  rfl

end Outcome

/-- Aligning vectors by the shortest one has the outcome of cutting them and their values
beforehand: the same series, apart from the number of positions that were cut, or the same fault.
Where all vectors have one length, both alignments have the same outcome. -/
theorem ofBlocks_truncate_eq_cut {blocks : List Block} {width : Nat}
    (hvectors : ∀ block ∈ blocks, block.axis.isVector = true)
    (hwidth : blocks ≠ [] → IsLeast (axisLengths blocks) width) :
    ((∃ series : Series,
        Series.ofBlocks .truncate blocks = .ok { series with
          truncated := (blocks.map fun block ↦ block.axis.length - width).sum } ∧
        Series.ofBlocks .reject (blocks.map (Block.cut width)) =
          .ok { series with truncated := 0 }) ∨
      ∃ error, Series.ofBlocks .truncate blocks = .error error ∧
        Series.ofBlocks .reject (blocks.map (Block.cut width)) = .error error) ∧
    ((∀ block ∈ blocks, ∀ other ∈ blocks, block.axis.length = other.axis.length) →
      Series.ofBlocks .truncate blocks = Series.ofBlocks .reject blocks) := by
  by_cases hne : blocks = []
  · subst hne
    exact ⟨.inl ⟨.empty, rfl, rfl⟩, fun _ ↦ rfl⟩
  · have hleast := hwidth hne
    have hne' : blocks.map (Block.cut width) ≠ [] := by simpa using hne
    have htruncated : (collect blocks).truncated =
        (blocks.map fun block ↦ block.axis.length - width).sum := by
      rw [collect_of_vectors hne hvectors, hleast.unique (isLeast_shortest hne)]
      exact surplus_eq_sum blocks
    constructor
    · rw [Series.ofBlocks, Series.ofBlocks, if_neg hne, if_neg hne',
        check_cut hne hvectors hleast, collect_cut hne hvectors hleast, ← htruncated]
      cases check .truncate blocks with
      | ok _ => exact .inl ⟨collect blocks, rfl, rfl⟩
      | error error => exact .inr ⟨error, rfl, rfl⟩
    · intro huniform
      have hreject := checkLengths_of_uniform hne huniform .reject
      simp only [Series.ofBlocks, check, hreject, checkLengths_truncate]

/-- One position is cut of two ragged vectors. After the cut both have two positions. -/
theorem ofBlocks_truncate_eq_cut_raggedRun :
    (∀ block ∈ raggedRun, block.axis.isVector = true) ∧ IsLeast (axisLengths raggedRun) 2 ∧
      (∃ series : Series, Series.ofBlocks .truncate raggedRun = .ok { series with truncated := 1 } ∧
        Series.ofBlocks .reject (raggedRun.map (Block.cut 2)) =
          .ok { series with truncated := 0 }) ∧
      Series.ofBlocks .truncate (raggedRun.map (Block.cut 2)) =
        Series.ofBlocks .reject (raggedRun.map (Block.cut 2)) := by
  have hvectors : ∀ block ∈ raggedRun, block.axis.isVector = true := by decide
  have hleast : IsLeast (axisLengths raggedRun) 2 := isLeast_shortest (by decide)
  have hvectors' : ∀ block ∈ raggedRun.map (Block.cut 2), block.axis.isVector = true := by decide
  have hleast' : IsLeast (axisLengths (raggedRun.map (Block.cut 2))) 2 :=
    isLeast_shortest (by decide)
  have huniform : ∀ block ∈ raggedRun.map (Block.cut 2), ∀ other ∈ raggedRun.map (Block.cut 2),
      block.axis.length = other.axis.length := by decide
  refine ⟨hvectors, hleast, ?_,
    (ofBlocks_truncate_eq_cut hvectors' fun _ ↦ hleast').2 huniform⟩
  rcases (ofBlocks_truncate_eq_cut hvectors fun _ ↦ hleast).1 with hseries | ⟨error, herror, -⟩
  · exact hseries
  · have hok : Series.ofBlocks .truncate raggedRun = .ok (collect raggedRun) := rfl
    cases hok.symm.trans herror

end Aggregation

end TrialSeries
