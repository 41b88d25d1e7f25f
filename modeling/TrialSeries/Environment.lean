import TrialSeries.Binary64
import TrialSeries.Directory
import TrialSeries.Timestamp

/-!
# Environments

What the program needs from its surroundings: files and a clock. A directory with a clock that
stands still is such an environment.
-/

namespace TrialSeries

/-- The reading of a clock when a report is made. -/
structure Clock where
  now : Timestamp
  /-- The seconds since the work began. -/
  elapsed : Binary64
deriving DecidableEq, Inhabited

structure Environment (m : Type → Type) where
  read (path : String) : m (Except FileError String)
  isPresent (path : String) : m Bool
  write (path text : String) : m (Except FileError Unit)
  clock : m Clock

namespace Directory

/-- The result of a write, and the directory after it. -/
def written (directory : Directory) (path text : String) : Except FileError Unit × Directory :=
  match directory.write path text with
  | .ok directory => (.ok (), directory)
  | .error error => (.error error, directory)

/-- A directory as an environment in which the clock always shows the same. -/
def environment (clock : Clock) : Environment (StateM Directory) where
  read path := return (← get).read path
  isPresent path := return (← get).isPresent path
  write path text := modifyGet (·.written path text)
  clock := return clock

end Directory

end TrialSeries
