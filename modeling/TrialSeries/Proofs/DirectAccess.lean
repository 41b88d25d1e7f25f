import TrialSeries.Proofs.SeriesFaults

/-!
# Access without a test

Once the metrics of a run are known, they are looked up in every block, and their values are taken at
every position of a vector, without a test that they are there. `Series.ofBlocksDirectly` takes these
steps block by block and has no answer at all where an access finds nothing. The checks before an
access are enough: it always has an answer, the series of the run or its first fault.
-/

namespace TrialSeries

/-- A computation that may refuse a run, and has no answer where an access finds nothing. -/
abbrev Direct (α : Type) := ExceptT SeriesError Option α

namespace Direct

variable {α β : Type}

def answer (result : Except SeriesError α) : Direct α := ExceptT.mk (some result)

/-- Takes what has to be there. -/
def access (found : Option α) : Direct α := ExceptT.mk (found.map .ok)

theorem access_some (value : α) : access (some value) = answer (.ok value) := rfl

theorem pure_eq (value : α) : (pure value : Direct α) = answer (.ok value) := rfl

theorem throw_eq (error : SeriesError) : (throw error : Direct α) = answer (.error error) := rfl

@[simp] theorem answer_ok_bind (value : α) (next : α → Direct β) :
    (answer (.ok value) >>= next) = next value := rfl

@[simp] theorem answer_error_bind (error : SeriesError) (next : α → Direct β) :
    (answer (.error error) >>= next) = answer (.error error) := rfl

theorem mapM_eq_answer_ok {items : List α} {step : α → Direct β} {value : α → β}
    (h : ∀ item ∈ items, step item = answer (.ok (value item))) :
    items.mapM step = answer (.ok (items.map value)) := by
  induction items with
  | nil => rfl
  | cons head rest ih =>
    obtain ⟨hhead, hrest⟩ := List.forall_mem_cons.1 h
    rw [List.mapM_cons, hhead, ih hrest]
    rfl

end Direct

namespace Aggregation

/-! ## Blocks -/

/-- Refuses a block for its first metric with fewer than `width` values. -/
def requireValues (names : List String) (width place : Nat) (block : Block) : Direct Unit :=
  forM names fun name ↦ do
    let values ← Direct.access (block.metrics.get? name)
    if values.length < width then throw (.misalignedMetric place name width values.length)

/-- The value of each metric at one place. -/
def elementsAt (names : List String) (block : Block) (place : Nat) :
    Direct (List (String × List Binary64)) :=
  names.mapM fun name ↦ do
    let values ← Direct.access (block.metrics.get? name)
    let value ← Direct.access values[place]?
    return (name, [value])

/-- The observations along the vector of a block. -/
def directObservations (names : List String) (width place : Nat) (block : Block) :
    Direct (List Observation) :=
  match block.axis with
  | .point _ => return []
  | .positions values => do
    requireValues names width place block
    (values.take width).zipIdx.mapM fun (position, place) ↦ do
      return ⟨.ofNumber position, .ofList (← elementsAt names block place)⟩

end Aggregation

/-- The series of the blocks of a run, with every access made without a test. -/
def Series.ofBlocksDirectly (alignment : Alignment) (blocks : List Block) : Direct Series :=
  if blocks = [] then return .empty
  else do
    Direct.answer (Aggregation.checkNames (Aggregation.metricNames blocks) blocks)
    let head ← Direct.access blocks[0]?
    Direct.answer (Aggregation.checkAxes blocks)
    if head.axis.isVector then
      Direct.answer (Aggregation.checkLengths alignment blocks)
      let observations ← blocks.zipIdx.mapM fun (block, place) ↦
        Aggregation.directObservations (Aggregation.metricNames blocks)
          (Aggregation.shortest blocks) place block
      return Aggregation.seriesOf (Aggregation.metricNames blocks)
        (Aggregation.group observations.flatten) (Aggregation.surplus blocks)
    else
      return Aggregation.seriesOf (Aggregation.metricNames blocks)
        (Aggregation.group (blocks.flatMap (Aggregation.observations 0))) 0

namespace Aggregation

/-! ## Accesses to a block -/

theorem get?_eq_valuesOf {block : Block} {name : String} (h : name ∈ block.metrics.keys) :
    block.metrics.get? name = some (block.valuesOf name) := by
  obtain ⟨values, hvalues⟩ := SortedMap.mem_keys_iff.1 h
  rw [Block.valuesOf, hvalues, Option.getD_some]

/-- The report of the metric for which a block is refused. -/
def shortMetricReport (width place : Nat) : Option (String × Nat) → Except SeriesError Unit
  | some (metric, found) => .error (.misalignedMetric place metric width found)
  | none => .ok ()

theorem requireValues_eq {names : List String} {block : Block} (width place : Nat)
    (h : ∀ name ∈ names, name ∈ block.metrics.keys) :
    requireValues names width place block =
      .answer (shortMetricReport width place (shortMetric? names width block)) := by
  induction names with
  | nil => rfl
  | cons name rest ih =>
    obtain ⟨hname, hrest⟩ := List.forall_mem_cons.1 h
    have ih := ih hrest
    rw [requireValues] at ih
    rw [requireValues, List.forM_cons, ih, get?_eq_valuesOf hname, Direct.access_some]
    by_cases hshort : (block.valuesOf name).length < width
    · simp [hshort, shortMetric?, shortMetricReport, Direct.throw_eq]
    · simp [hshort, shortMetric?, Direct.pure_eq]

theorem elementsAt_eq {block : Block} {place : Nat}
    (h : ∀ name ∈ block.metrics.keys, place < (block.valuesOf name).length) :
    elementsAt block.metrics.keys block place =
      .answer (.ok (block.metrics.keys.map fun name ↦
        (name, ((block.valuesOf name).drop place).take 1))) := by
  apply Direct.mapM_eq_answer_ok
  intro name hname
  have hplace := h name hname
  rw [get?_eq_valuesOf hname, Direct.access_some, Direct.answer_ok_bind,
    List.getElem?_eq_getElem hplace, Direct.access_some, Direct.answer_ok_bind,
    List.drop_eq_getElem_cons hplace]
  rfl

/-- Listing the metrics of a block by name is walking over them. -/
theorem ofList_map_valuesOf (block : Block) (f : List Binary64 → List Binary64) :
    SortedMap.ofList (block.metrics.keys.map fun name ↦ (name, f (block.valuesOf name))) =
      block.metrics.mapValues fun _ values ↦ f values := by
  apply SortedMap.ext_get?
  intro name
  rw [SortedMap.get?_ofList_map, SortedMap.get?_mapValues]
  cases hvalues : block.metrics.get? name <;>
    simp [SortedMap.mem_keys_iff, Block.valuesOf, hvalues]

theorem directObservations_eq {block : Block} (h : block.axis.isVector = true)
    (width place : Nat) :
    directObservations block.metrics.keys width place block =
      .answer ((shortMetricReport width place (shortMetric? block.metrics.keys width block)).map
        fun _ ↦ observations width block) := by
  cases haxis : block.axis with
  | point setting => simp [haxis, Axis.isVector] at h
  | positions values =>
    simp only [directObservations, observations, haxis]
    rw [requireValues_eq width place fun _ hname ↦ hname]
    cases hshort : shortMetric? block.metrics.keys width block with
    | some found => rfl
    | none =>
      have hlong : ∀ name ∈ block.metrics.keys, width ≤ (block.valuesOf name).length := by
        simpa [shortMetric?] using hshort
      apply Direct.mapM_eq_answer_ok
      intro pair hpair
      have hplace : pair.2 < (values.take width).length := by
        simpa using (List.mem_zipIdx hpair).2.1
      have hwidth : pair.2 < width := by
        rw [List.length_take] at hplace
        omega
      rw [elementsAt_eq fun name hname ↦ hwidth.trans_le (hlong name hname), Direct.answer_ok_bind,
        ofList_map_valuesOf block fun values ↦ (values.drop pair.2).take 1]
      rfl

/-- Going through the blocks stops at the first metric that is too short, or gives all
observations. -/
theorem mapM_directObservations {blocks : List Block} {names : List String}
    (hvectors : ∀ block ∈ blocks, block.axis.isVector = true)
    (hnames : ∀ block ∈ blocks, block.metrics.keys = names) (width start : Nat) :
    (blocks.zipIdx start).mapM (fun (block, place) ↦ directObservations names width place block) =
      .answer (match firstDefect (shortMetric? names width) start blocks with
        | some (block, metric, found) => .error (.misalignedMetric block metric width found)
        | none => .ok (blocks.map (observations width))) := by
  induction blocks generalizing start with
  | nil => rfl
  | cons head rest ih =>
    obtain ⟨hhead, hrest⟩ := List.forall_mem_cons.1 hvectors
    obtain ⟨hname, hnames⟩ := List.forall_mem_cons.1 hnames
    subst hname
    rw [List.zipIdx_cons, List.mapM_cons, ih hrest hnames, firstDefect]
    simp only [directObservations_eq hhead]
    cases shortMetric? head.metrics.keys width head with
    | some found => rfl
    | none =>
      simp only [shortMetricReport]
      cases firstDefect (shortMetric? head.metrics.keys width) (start + 1) rest <;> rfl

/-! ## The outcome of a run -/

theorem keys_eq_metricNames {blocks : List Block} (h : IsComplete blocks) :
    ∀ block ∈ blocks, block.metrics.keys = metricNames blocks := by
  intro block hblock
  apply eq_of_ascending_of_mem_iff block.metrics.ascending_keys (pairwise_metricNames blocks)
  intro name
  exact (h.mem_metricNames_iff hblock name).symm

end Aggregation

/-- Every access finds what it looks for. -/
theorem Series.ofBlocksDirectly_eq (alignment : Alignment) (blocks : List Block) :
    Series.ofBlocksDirectly alignment blocks = .answer (Series.ofBlocks alignment blocks) := by
  by_cases hne : blocks = []
  · subst hne
    rfl
  · obtain ⟨head, hhead⟩ : ∃ head, blocks[0]? = some head :=
      ⟨_, List.getElem?_eq_getElem (List.length_pos_iff.2 hne)⟩
    have hkind : Aggregation.isVectorRun blocks = head.axis.isVector := by
      rw [Aggregation.isVectorRun, List.head?_eq_getElem?, hhead, Option.any_some]
    rw [Series.ofBlocksDirectly, Series.ofBlocks, if_neg hne, if_neg hne, Aggregation.check, hhead,
      Direct.access_some, Aggregation.collect, hkind]
    cases hnames : Aggregation.checkNames (Aggregation.metricNames blocks) blocks with
    | error error => rfl
    | ok _ =>
      cases haxes : Aggregation.checkAxes blocks with
      | error error => rfl
      | ok _ =>
        simp only [Direct.answer_ok_bind]
        cases hvector : head.axis.isVector with
        | false => rfl
        | true =>
          have hcomplete := Aggregation.checkNames_eq_ok_iff_isComplete.1 hnames
          have hvectors :=
            (Aggregation.isVectorRun_and_uniform_iff hne).1 ⟨haxes, hkind.trans hvector⟩
          cases Aggregation.checkLengths alignment blocks with
          | error error => rfl
          | ok _ =>
            rw [Aggregation.mapM_directObservations hvectors
              (Aggregation.keys_eq_metricNames hcomplete), Aggregation.checkValues]
            cases Aggregation.firstDefect _ 0 blocks <;> rfl

/-- The outcome of a run is decided: no access is made in vain, the run is refused for its first
fault, and it has a series if it has no fault. -/
theorem Series.ofBlocks_decided (alignment : Alignment) (blocks : List Block) :
    (Series.ofBlocksDirectly alignment blocks).run = some (Series.ofBlocks alignment blocks) ∧
      (∀ error, Series.ofBlocks alignment blocks = .error error ↔
        Aggregation.Fault alignment blocks error) ∧
      ((∃ series, Series.ofBlocks alignment blocks = .ok series) ↔
        ∀ error, ¬ Aggregation.Fault alignment blocks error) := by
  refine ⟨congrArg ExceptT.run (Series.ofBlocksDirectly_eq alignment blocks), ?_, ?_⟩
  · intro error
    exact Aggregation.ofBlocks_eq_error_iff_fault
  · simp only [← Aggregation.ofBlocks_eq_error_iff_fault]
    cases Series.ofBlocks alignment blocks <;> simp

end TrialSeries
