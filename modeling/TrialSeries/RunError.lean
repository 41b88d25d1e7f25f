import TrialSeries.FileError
import TrialSeries.LogError
import TrialSeries.SeriesError

/-!
# Why a run file has no series
-/

namespace TrialSeries

inductive RunError where
  /-- No rule of the table applies to the run, and there is no fallback. -/
  | noRule (trial run : String)
  | unreadable (path : String) (error : FileError)
  | malformedLog (path : String) (error : LogError)
  | inconsistentBlocks (path : String) (error : SeriesError)
deriving DecidableEq

namespace RunError

def message : RunError → String
  | noRule trial run =>
    "No extraction rule for trial '" ++ trial ++ "' and run '" ++ run ++ "'"
  | unreadable path error => "Failed to read run file: " ++ path ++ ": " ++ error.message
  | malformedLog path error => "Failed to parse " ++ path ++ ": " ++ error.message
  | inconsistentBlocks path error => "Failed to aggregate " ++ path ++ ": " ++ error.message

end RunError

end TrialSeries
