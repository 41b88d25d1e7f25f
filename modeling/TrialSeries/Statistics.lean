import TrialSeries.Binary64

/-!
# Mean and population deviation

Sums run from left to right and start at negative zero, which adds nothing to any value. The mean
and the deviation of no values are NaN.
-/

namespace TrialSeries

namespace Binary64

def sum (values : List Binary64) : Binary64 := values.foldl (· + ·) negativeZero

def mean (values : List Binary64) : Binary64 :=
  if values = [] then quietNaN false else sum values / ofNat values.length

def squaredDistance (center value : Binary64) : Binary64 := (value - center) * (value - center)

/-- The population standard deviation: the root of the mean squared distance from the mean. -/
def deviation (values : List Binary64) : Binary64 :=
  if values = [] then quietNaN false
  else (sum (values.map (squaredDistance (mean values))) / ofNat values.length).sqrt

end Binary64

/-- The statistics of one metric, with one entry of each list for each setting of a series. -/
structure Statistics where
  mean : List Binary64
  deviation : List Binary64
  /-- The number of values behind each mean. -/
  count : List Nat
deriving DecidableEq

namespace Statistics

/-- The statistics of the values found at each setting. -/
def ofGroups (groups : List (List Binary64)) : Statistics :=
  ⟨groups.map Binary64.mean, groups.map Binary64.deviation, groups.map List.length⟩

end Statistics

end TrialSeries
