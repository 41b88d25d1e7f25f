import TrialSeries.Block
import TrialSeries.Statistics

/-!
# Series

A series holds the statistics of one run: its settings in ascending order, how many blocks or vector
positions were recorded at each, and for each metric a mean, a deviation and a count at each. A
series that does not come from blocks need not be aligned, so every access says what happens beyond
the end of a list.
-/

namespace TrialSeries

structure Series where
  settings : List Setting
  blocks : List Nat
  metrics : SortedMap String Statistics
  /-- Positions that were dropped to align vectors. -/
  truncated : Nat
deriving DecidableEq

namespace Series

def empty : Series := ⟨[], [], ∅, 0⟩

instance : Inhabited Series := ⟨empty⟩

/-- The number of settings. -/
def length (series : Series) : Nat := series.settings.length

def isEmpty (series : Series) : Bool := series.settings.isEmpty

def metric? (series : Series) (name : String) : Option Statistics := series.metrics.get? name

/-! ## Looking up a setting -/

/-- Halves the range `base … base + size - 1` of an ascending list around a setting until one place
is left. -/
def searchRange (settings : List Setting) (setting : Setting) (base size : Nat) : Nat :=
  if size ≤ 1 then base
  else
    let half := size / 2
    let middle := base + half
    let next := match settings[middle]? with
      | some found => if compare found setting = .gt then base else middle
      | none => base
    searchRange settings setting next (size - half)
termination_by size
decreasing_by omega

/-- The place of a setting in an ascending list, by binary search. -/
def place? (settings : List Setting) (setting : Setting) : Option Nat :=
  let place := searchRange settings setting 0 settings.length
  match settings[place]? with
  | some found => if compare found setting = .eq then some place else none
  | none => none

/-- The mean and the deviation of a metric at a setting. -/
def statisticsAt? (series : Series) (name : String) (setting : Setting) :
    Option (Binary64 × Binary64) := do
  let place ← place? series.settings setting
  let statistics ← series.metric? name
  let mean ← statistics.mean[place]?
  let deviation ← statistics.deviation[place]?
  some (mean, deviation)

/-! ## Back to blocks -/

/-- The block at one place: the setting, and under each metric its mean; nothing if a mean is
missing. -/
def blockAt? (series : Series) (place : Nat) (setting : Setting) : Option Block :=
  series.metrics.entries.foldlM
    (fun block (name, statistics) ↦
      (statistics.mean[place]?).map fun mean ↦ block.record name [mean])
    (Block.start (.point setting))

/-- One block for each setting, holding the means; nothing if some mean is missing. -/
def toBlocks? (series : Series) : Option (List Block) :=
  series.settings.zipIdx.mapM fun (setting, place) ↦ series.blockAt? place setting

end Series

end TrialSeries
