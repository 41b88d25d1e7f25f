import TrialSeries.Setting

/-!
# The axis of a block

A block is recorded either at one setting, or along a vector of positions, where position `i` goes
with element `i` of each metric.
-/

namespace TrialSeries

inductive Axis where
  | point (setting : Setting)
  | positions (values : List Binary64)
deriving DecidableEq, Inhabited

namespace Axis

/-- The number of positions; a point is one. -/
def length : Axis → Nat
  | point _ => 1
  | positions values => values.length

def isVector : Axis → Bool
  | point _ => false
  | positions _ => true

end Axis

end TrialSeries
