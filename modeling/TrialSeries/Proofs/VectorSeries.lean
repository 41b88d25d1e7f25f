import TrialSeries.Proofs.PointSeries

/-!
# Series of blocks along vectors

A block along a vector stands for one block at a point for each of its positions, which holds the one
value of each metric that goes with the position. The series of a run along vectors is the series of
the blocks at points that its blocks stand for, apart from the count of the positions that were cut.
-/

namespace TrialSeries

namespace Block

/-- The block at one position of a vector, with the value of each metric at the same place. -/
def atPosition (block : Block) (place : Nat) (position : Binary64) : Block :=
  ⟨.point (.ofNumber position), block.metrics.mapValues fun _ values ↦ values[place]?.toList⟩

/-- The blocks at points for which a block stands, along a vector up to a width. -/
def pointwise (width : Nat) (block : Block) : List Block :=
  match block.axis with
  | .point _ => [block]
  | .positions values =>
    (List.range width).filterMap fun place ↦ values[place]?.map (block.atPosition place)

end Block

namespace Aggregation

/-- The blocks at points for which the blocks of a run stand, up to the shortest vector. -/
def pointwise (blocks : List Block) : List Block :=
  blocks.flatMap (Block.pointwise (shortest blocks))

/-! ## Positions and places -/

theorem zipIdx_take_succ {α : Type} (values : List α) (width : Nat) :
    (values.take (width + 1)).zipIdx =
      (values.take width).zipIdx ++ (values[width]?.map fun value ↦ (value, width)).toList := by
  rw [List.take_add_one, List.zipIdx_append]
  cases hvalue : values[width]? with
  | none => rfl
  | some value =>
    have hwidth : width < values.length := (List.getElem?_eq_some_iff.1 hvalue).1
    have hlength : (values.take width).length = width := by
      rw [List.length_take]
      omega
    simp [hlength]

/-- Walking over the first members of a list is walking over the first places in it. -/
theorem map_zipIdx_take {α β : Type} (values : List α) (f : Nat → α → β) (width : Nat) :
    (values.take width).zipIdx.map (fun pair ↦ f pair.2 pair.1) =
      (List.range width).filterMap fun place ↦ values[place]?.map (f place) := by
  induction width with
  | zero => rfl
  | succ width ih =>
    calc
      (values.take (width + 1)).zipIdx.map (fun pair ↦ f pair.2 pair.1) =
          (values.take width).zipIdx.map (fun pair ↦ f pair.2 pair.1) ++
            (values[width]?.map (f width)).toList := by
        rw [zipIdx_take_succ, List.map_append]
        cases values[width]? <;> rfl
      _ = ((List.range width).filterMap fun place ↦ values[place]?.map (f place)) ++
            (values[width]?.map (f width)).toList := by
        rw [ih]
      _ = (List.range (width + 1)).filterMap fun place ↦ values[place]?.map (f place) := by
        rw [List.range_succ, List.filterMap_append]
        cases hvalue : values[width]? <;> simp [hvalue]

theorem observations_atPosition (block : Block) (place width : Nat) (position : Binary64) :
    observations width (block.atPosition place position) =
      [positionAt block.metrics place position] := by
  simp [observations, Block.atPosition, positionAt, List.take_one, List.head?_drop]

/-- A block along a vector and the blocks for which it stands give the same observations. -/
theorem flatMap_observations_pointwise {block : Block} (h : block.axis.isVector = true)
    (width other : Nat) :
    (block.pointwise width).flatMap (observations other) = observations width block := by
  cases haxis : block.axis with
  | point setting => simp [haxis, Axis.isVector] at h
  | positions values =>
    calc
      (block.pointwise width).flatMap (observations other) =
          ((values.take width).zipIdx.map fun pair ↦
            block.atPosition pair.2 pair.1).flatMap (observations other) := by
        simp only [Block.pointwise, haxis]
        rw [← map_zipIdx_take]
      _ = (values.take width).zipIdx.map fun pair ↦
            positionAt block.metrics pair.2 pair.1 := by
        simp only [List.flatMap_map, observations_atPosition]
        rw [← List.map_eq_flatMap]
      _ = observations width block := by
        simp only [observations, haxis]

/-! ## The blocks at positions -/

theorem mem_pointwise {blocks : List Block} (h : ∀ block ∈ blocks, block.axis.isVector = true)
    {found : Block} :
    found ∈ pointwise blocks ↔ ∃ block ∈ blocks, ∃ values, block.axis = .positions values ∧
      ∃ place < shortest blocks, ∃ position, values[place]? = some position ∧
        block.atPosition place position = found := by
  simp only [pointwise, List.mem_flatMap]
  apply exists_congr
  intro block
  apply and_congr_right
  intro hblock
  cases haxis : block.axis with
  | point setting => simpa [haxis, Axis.isVector] using h block hblock
  | positions values => simp [Block.pointwise, haxis]

theorem isVector_of_mem_pointwise {blocks : List Block}
    (h : ∀ block ∈ blocks, block.axis.isVector = true) :
    ∀ found ∈ pointwise blocks, found.axis.isVector = false := by
  intro found hfound
  obtain ⟨block, -, values, -, place, -, position, -, rfl⟩ := (mem_pointwise h).1 hfound
  rfl

theorem keys_of_mem_pointwise {blocks : List Block}
    (h : ∀ block ∈ blocks, block.axis.isVector = true) :
    ∀ found ∈ pointwise blocks, ∃ block ∈ blocks, found.metrics.keys = block.metrics.keys := by
  intro found hfound
  obtain ⟨block, hblock, values, -, place, -, position, -, rfl⟩ := (mem_pointwise h).1 hfound
  exact ⟨block, hblock, SortedMap.keys_mapValues _ _⟩

/-- Blocks that share all metrics stand for blocks with the same metrics. -/
theorem metricNames_pointwise {blocks : List Block}
    (hvectors : ∀ block ∈ blocks, block.axis.isVector = true)
    (hnames : ∀ block ∈ blocks, ∀ name ∈ metricNames blocks, name ∈ block.metrics.keys)
    (hne : pointwise blocks ≠ []) : metricNames (pointwise blocks) = metricNames blocks := by
  apply ascendingDistinct_congr
  intro name
  simp only [List.mem_flatMap]
  constructor
  · intro h
    rcases h with ⟨found, hfound, hname⟩
    obtain ⟨block, hblock, hkeys⟩ := keys_of_mem_pointwise hvectors found hfound
    exact ⟨block, hblock, hkeys ▸ hname⟩
  · intro hname
    obtain ⟨found, rest, hcons⟩ := List.exists_cons_of_ne_nil hne
    have hfound : found ∈ pointwise blocks := by simp [hcons]
    obtain ⟨block, hblock, hkeys⟩ := keys_of_mem_pointwise hvectors found hfound
    refine ⟨found, hfound, ?_⟩
    rw [hkeys]
    exact hnames block hblock name (mem_metricNames.2 hname)

theorem check_pointwise {blocks : List Block}
    (hvectors : ∀ block ∈ blocks, block.axis.isVector = true)
    (hnames : ∀ block ∈ blocks, ∀ name ∈ metricNames blocks, name ∈ block.metrics.keys)
    (hne : pointwise blocks ≠ []) (alignment : Alignment) :
    check alignment (pointwise blocks) = .ok () := by
  apply check_of_points hne (isVector_of_mem_pointwise hvectors)
  rw [metricNames_pointwise hvectors hnames hne]
  intro found hfound name hname
  obtain ⟨block, hblock, hkeys⟩ := keys_of_mem_pointwise hvectors found hfound
  rw [hkeys]
  exact hnames block hblock name hname

theorem flatMap_observations_of_vectors {blocks : List Block}
    (h : ∀ block ∈ blocks, block.axis.isVector = true) (width : Nat) :
    (pointwise blocks).flatMap (observations width) =
      blocks.flatMap (observations (shortest blocks)) := by
  rw [pointwise, List.flatMap_assoc]
  apply List.flatMap_congr
  intro block hblock
  exact flatMap_observations_pointwise (h block hblock) (shortest blocks) width

theorem collect_of_vectors {blocks : List Block} (hne : blocks ≠ [])
    (h : ∀ block ∈ blocks, block.axis.isVector = true) :
    collect blocks = seriesOf (metricNames blocks)
      (group (blocks.flatMap (observations (shortest blocks)))) (surplus blocks) := by
  simp [collect, isVectorRun_eq hne h]

/-- What the checks of a run along vectors guarantee. -/
theorem names_and_values_of_check {alignment : Alignment} {blocks : List Block}
    (hne : blocks ≠ []) (hvectors : ∀ block ∈ blocks, block.axis.isVector = true)
    (h : check alignment blocks = .ok ()) :
    (∀ block ∈ blocks, ∀ name ∈ metricNames blocks, name ∈ block.metrics.keys) ∧
      ∀ block ∈ blocks, ∀ name ∈ metricNames blocks,
        shortest blocks ≤ (block.valuesOf name).length := by
  obtain ⟨hnames, -, hvalues⟩ := check_eq_ok_iff.1 h
  exact ⟨checkNames_eq_ok_iff.1 hnames,
    checkValues_eq_ok_iff.1 (hvalues (isVectorRun_eq hne hvectors)).2⟩

/-! ## The series -/

theorem collect_pointwise {blocks : List Block}
    (hvectors : ∀ block ∈ blocks, block.axis.isVector = true)
    (hnames : ∀ block ∈ blocks, ∀ name ∈ metricNames blocks, name ∈ block.metrics.keys)
    (hne : pointwise blocks ≠ []) :
    collect (pointwise blocks) = { collect blocks with truncated := 0 } := by
  have hblocks : blocks ≠ [] := by
    intro hnil
    apply hne
    rw [hnil]
    rfl
  calc
    collect (pointwise blocks) = seriesOf (metricNames (pointwise blocks))
        (group ((pointwise blocks).flatMap (observations 0))) 0 :=
      collect_of_points (isVector_of_mem_pointwise hvectors)
    _ = seriesOf (metricNames blocks)
        (group (blocks.flatMap (observations (shortest blocks)))) 0 := by
      rw [metricNames_pointwise hvectors hnames hne, flatMap_observations_of_vectors hvectors]
    _ = { collect blocks with truncated := 0 } := by
      rw [collect_of_vectors hblocks hvectors]
      rfl

/-- A run that stands for no block at all has an empty series. -/
theorem collect_of_pointwise_eq_nil {blocks : List Block} (hne : blocks ≠ [])
    (hvectors : ∀ block ∈ blocks, block.axis.isVector = true) (h : pointwise blocks = []) :
    collect blocks = { Series.empty with truncated := surplus blocks } := by
  have hobservations : blocks.flatMap (observations (shortest blocks)) = [] := by
    rw [← flatMap_observations_of_vectors hvectors 0, h]
    rfl
  rw [collect_of_vectors hne hvectors, hobservations]
  rfl

/-- Where every metric reaches the shortest vector, each position has one value of each metric. -/
theorem valuesOf_of_mem_pointwise {blocks : List Block}
    (hvectors : ∀ block ∈ blocks, block.axis.isVector = true)
    (hvalues : ∀ block ∈ blocks, ∀ name ∈ metricNames blocks,
      shortest blocks ≤ (block.valuesOf name).length) :
    ∀ found ∈ pointwise blocks, ∀ name ∈ found.metrics.keys,
      ∃ value, found.valuesOf name = [value] := by
  intro found hfound name hname
  obtain ⟨block, hblock, values, -, place, hplace, position, -, rfl⟩ :=
    (mem_pointwise hvectors).1 hfound
  have hkey : name ∈ block.metrics.keys := by
    simpa [Block.atPosition] using hname
  have hlength := hvalues block hblock name (mem_metricNames.2 ⟨block, hblock, hkey⟩)
  obtain ⟨recorded, hrecorded⟩ := SortedMap.mem_keys_iff.1 hkey
  rw [Block.valuesOf, hrecorded, Option.getD_some] at hlength
  have hlt : place < recorded.length := by omega
  refine ⟨recorded[place], ?_⟩
  simp [Block.valuesOf, Block.atPosition, SortedMap.get?_mapValues, hrecorded,
    List.getElem?_eq_getElem hlt]

/-- A run along vectors that has a series stands for a run at points that has the same series, apart
from the count of positions that were cut, and that holds one value of each metric in each block. -/
theorem ofBlocks_pointwise {alignment : Alignment} {blocks : List Block} {series : Series}
    (hvectors : ∀ block ∈ blocks, block.axis.isVector = true)
    (h : Series.ofBlocks alignment blocks = .ok series) (other : Alignment) :
    Series.ofBlocks other (pointwise blocks) = .ok { series with truncated := 0 } ∧
      ∀ found ∈ pointwise blocks, ∀ name ∈ found.metrics.keys,
        ∃ value, found.valuesOf name = [value] := by
  by_cases hne : blocks = []
  · subst hne
    cases h
    exact ⟨rfl, by simp [pointwise]⟩
  · obtain ⟨hcheck, rfl⟩ := (Series.ofBlocks_eq_ok_iff hne).1 h
    obtain ⟨hnames, hvalues⟩ := names_and_values_of_check hne hvectors hcheck
    refine ⟨?_, valuesOf_of_mem_pointwise hvectors hvalues⟩
    by_cases hpointwise : pointwise blocks = []
    · rw [hpointwise, collect_of_pointwise_eq_nil hne hvectors hpointwise]
      rfl
    · apply (Series.ofBlocks_eq_ok_iff hpointwise).2
      exact ⟨check_pointwise hvectors hnames hpointwise other,
        collect_pointwise hvectors hnames hpointwise⟩

/-- Two vectors of differing length, the first with both zeros, and values beyond the vectors. -/
def raggedRun : List Block :=
  [(Block.start (.positions [.zero, .negativeZero, ⟨0x3ff0000000000000⟩])).record "m"
    [⟨0x3ff0000000000000⟩, ⟨0x4000000000000000⟩, ⟨0x4008000000000000⟩, .zero],
   (Block.start (.positions [⟨0x3ff0000000000000⟩, .zero])).record "m"
    [⟨0x4008000000000000⟩, .zero, .zero]]

theorem ofBlocks_pointwise_raggedRun :
    (∀ block ∈ raggedRun, block.axis.isVector = true) ∧
      ∃ series, Series.ofBlocks .truncate raggedRun = .ok series ∧
        series.blocks = [3, 1] ∧ series.truncated = 1 ∧
        Series.ofBlocks .reject (pointwise raggedRun) = .ok { series with truncated := 0 } := by
  have hvectors : ∀ block ∈ raggedRun, block.axis.isVector = true := by decide
  have hseries : Series.ofBlocks .truncate raggedRun = .ok (collect raggedRun) := rfl
  exact ⟨hvectors, _, hseries, rfl, rfl, (ofBlocks_pointwise hvectors hseries .reject).1⟩

end Aggregation

end TrialSeries
