import TrialSeries.Text.Quoted

/-!
# What can be wrong with the blocks of a run
-/

namespace TrialSeries

/-- A reason why blocks do not form a series. Blocks are counted from zero. -/
inductive SeriesError where
  /-- A block has a point where the first one has a vector, or the other way round. -/
  | mixedAxes (block : Nat)
  /-- Vectors differ in length and may not be cut. -/
  | raggedVectors (shortest longest : Nat)
  /-- A metric of some block is absent from this one. -/
  | missingMetric (block : Nat) (metric : String)
  /-- A metric has too few values for the positions it goes with. -/
  | misalignedMetric (block : Nat) (metric : String) (expected found : Nat)
deriving DecidableEq

namespace SeriesError

def message : SeriesError → String
  | mixedAxes block =>
    "block " ++ toString block ++ ": independent variable mixes scalar and vector values"
  | raggedVectors shortest longest =>
    "vector x values have differing lengths (shortest " ++ toString shortest ++ ", longest " ++
      toString longest ++ ")"
  | missingMetric block metric =>
    "block " ++ toString block ++ ": metric " ++ Text.quote metric ++ " is missing"
  | misalignedMetric block metric expected found =>
    "block " ++ toString block ++ ": metric " ++ Text.quote metric ++ " has " ++ toString found ++
      " values, expected at least " ++ toString expected

end SeriesError

end TrialSeries
