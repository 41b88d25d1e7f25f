import TrialSeries.Axis
import TrialSeries.SortedMap

/-!
# Blocks of a run log

A block is what was recorded under one settings line: its axis, and under each metric name the
values in the order of the log. A name may be present without values.
-/

namespace TrialSeries

/-- Recorded values under the names of their metrics. -/
abbrev Metrics := SortedMap String (List Binary64)

structure Block where
  axis : Axis
  metrics : Metrics
deriving DecidableEq

instance : Inhabited Block := ⟨⟨default, ∅⟩⟩

namespace Block

/-- A block without metrics. -/
def start (axis : Axis) : Block := ⟨axis, ∅⟩

/-- Adds values to the end of a metric, which is present afterwards even if there are none. -/
def record (block : Block) (name : String) (values : List Binary64) : Block :=
  { block with metrics := block.metrics.alter name fun old ↦ old.getD [] ++ values }

/-- The values of a metric; none if the name is absent. -/
def valuesOf (block : Block) (name : String) : List Binary64 := (block.metrics.get? name).getD []

end Block

end TrialSeries
