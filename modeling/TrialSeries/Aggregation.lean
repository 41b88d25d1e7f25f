import TrialSeries.Event
import TrialSeries.Series
import TrialSeries.SeriesError

/-!
# From blocks to a series

All blocks of a run carry the same metrics and the same kind of axis. A block at a point is one
observation of all its values; a block along a vector is one observation at each position, of one
value a metric. Vectors of differing length are cut to the shortest one or refused. The observations
at one setting give one row of the series, and their values are taken in the order of the blocks.
-/

namespace TrialSeries

/-- What to do with vectors of differing length. -/
inductive Alignment where
  | truncate
  | reject
deriving DecidableEq, Inhabited

/-- Values recorded together at one setting. -/
structure Observation where
  setting : Setting
  metrics : Metrics
deriving DecidableEq

namespace Aggregation

/-! ## Checks -/

/-- The names of all metrics of a run, ascending. -/
def metricNames (blocks : List Block) : List String :=
  ascendingDistinct (blocks.flatMap (·.metrics.keys))

/-- The first member of a list that has a defect, with its place and the defect. -/
def firstDefect {α β : Type} (defect : α → Option β) : Nat → List α → Option (Nat × β)
  | _, [] => none
  | place, member :: rest =>
    match defect member with
    | some found => some (place, found)
    | none => firstDefect defect (place + 1) rest

/-- The first of some names that a block lacks. -/
def missingName? (names : List String) (block : Block) : Option String :=
  names.find? fun name ↦ !block.metrics.contains name

def checkNames (names : List String) (blocks : List Block) : Except SeriesError Unit :=
  match firstDefect (missingName? names) 0 blocks with
  | some (block, metric) => .error (.missingMetric block metric)
  | none => .ok ()

/-- The run is recorded along vectors, as its first block says. -/
def isVectorRun (blocks : List Block) : Bool := blocks.head?.any (·.axis.isVector)

def checkAxes (blocks : List Block) : Except SeriesError Unit :=
  let kind := isVectorRun blocks
  match firstDefect (fun block ↦ if block.axis.isVector = kind then none else some ()) 0 blocks with
  | some (block, ()) => .error (.mixedAxes block)
  | none => .ok ()

def lengths (blocks : List Block) : List Nat := blocks.map (·.axis.length)

def shortest (blocks : List Block) : Nat := (lengths blocks).min?.getD 0

def longest (blocks : List Block) : Nat := (lengths blocks).max?.getD 0

/-- The number of positions beyond the shortest vector. -/
def surplus (blocks : List Block) : Nat :=
  (lengths blocks).foldr (fun length total ↦ length - shortest blocks + total) 0

def checkLengths (alignment : Alignment) (blocks : List Block) : Except SeriesError Unit :=
  if shortest blocks ≠ longest blocks ∧ alignment = .reject then
    .error (.raggedVectors (shortest blocks) (longest blocks))
  else .ok ()

/-- The first of some names whose values in a block are fewer than its positions, with their
number. -/
def shortMetric? (names : List String) (width : Nat) (block : Block) : Option (String × Nat) :=
  (names.find? fun name ↦ (block.valuesOf name).length < width).map fun name ↦
    (name, (block.valuesOf name).length)

def checkValues (names : List String) (width : Nat) (blocks : List Block) :
    Except SeriesError Unit :=
  match firstDefect (shortMetric? names width) 0 blocks with
  | some (block, metric, found) => .error (.misalignedMetric block metric width found)
  | none => .ok ()

/-! ## Observations -/

/-- The observation at one position of a vector: one value of each metric. -/
def positionAt (metrics : Metrics) (place : Nat) (position : Binary64) : Observation :=
  ⟨.ofNumber position, metrics.mapValues fun _ values ↦ (values.drop place).take 1⟩

/-- The observations of a block; along a vector, those of its first `width` positions. -/
def observations (width : Nat) (block : Block) : List Observation :=
  match block.axis with
  | .point setting => [⟨setting, block.metrics⟩]
  | .positions values =>
    (values.take width).zipIdx.map fun (position, place) ↦
      positionAt block.metrics place position

/-- The metrics observed at each setting, in the order of the observations. -/
def group (observations : List Observation) : SortedMap Setting (List Metrics) :=
  observations.foldl
    (fun groups observation ↦
      groups.alter observation.setting fun old ↦ old.getD [] ++ [observation.metrics])
    ∅

/-- All values of a metric in some observations. -/
def valuesOf (name : String) (group : List Metrics) : List Binary64 :=
  group.flatMap fun metrics ↦ (metrics.get? name).getD []

/-! ## The series -/

/-- The series of grouped observations; without a setting there is no metric either. -/
def seriesOf (names : List String) (groups : SortedMap Setting (List Metrics))
    (truncated : Nat) : Series where
  settings := groups.keys
  blocks := groups.values.map List.length
  metrics :=
    if groups.entries = [] then ∅
    else .ofList (names.map fun name ↦ (name, .ofGroups (groups.values.map (valuesOf name))))
  truncated := truncated

/-- The series of blocks that passed all checks. -/
def collect (blocks : List Block) : Series :=
  if isVectorRun blocks then
    seriesOf (metricNames blocks) (group (blocks.flatMap (observations (shortest blocks))))
      (surplus blocks)
  else seriesOf (metricNames blocks) (group (blocks.flatMap (observations 0))) 0

/-- All checks of a run that has blocks, in the order in which they are made. -/
def check (alignment : Alignment) (blocks : List Block) : Except SeriesError Unit := do
  checkNames (metricNames blocks) blocks
  checkAxes blocks
  if isVectorRun blocks then
    checkLengths alignment blocks
    checkValues (metricNames blocks) (shortest blocks) blocks

end Aggregation

/-- The series of the blocks of a run. -/
def Series.ofBlocks (alignment : Alignment) (blocks : List Block) : Except SeriesError Series :=
  if blocks = [] then .ok .empty
  else (Aggregation.check alignment blocks).map fun _ ↦ Aggregation.collect blocks

namespace Aggregation

/-! ## Events -/

/-- The warning that vectors are cut, which comes before their values are checked. -/
def truncationEvents (alignment : Alignment) (blocks : List Block) : List Event :=
  let cuts : Except SeriesError Unit := do
    checkNames (metricNames blocks) blocks
    checkAxes blocks
    checkLengths alignment blocks
  if cuts.isOk ∧ isVectorRun blocks ∧ shortest blocks ≠ longest blocks then
    [⟨.warn, "Truncating x vectors to " ++ toString (shortest blocks) ++ " positions (longest " ++
      toString (longest blocks) ++ "), dropping " ++ toString (surplus blocks) ++
      " observation(s)"⟩]
  else []

/-- What is reported while blocks are aggregated; nothing for a run without blocks. -/
def events (alignment : Alignment) (blocks : List Block) : List Event :=
  if blocks = [] then []
  else truncationEvents alignment blocks ++
    match Series.ofBlocks alignment blocks with
    | .ok series =>
      [⟨.debug, "Aggregated " ++ toString blocks.length ++ " block(s) into " ++
        toString series.length ++ " x value(s), " ++ toString series.metrics.size ++
        " metric(s)"⟩]
    | .error _ => []

end Aggregation

end TrialSeries
