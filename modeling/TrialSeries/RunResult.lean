import TrialSeries.RunFile
import TrialSeries.Series

/-!
# Results of runs

The result of processing a run file is a series or the text of an error. Results are grouped by
trial, trials ascending; within a trial they are ordered by the name of the run, and results of the
same name stay in the order in which they came.
-/

namespace TrialSeries

structure RunResult where
  trial : String
  run : String
  path : String
  series : Option Series
  error : Option String
deriving DecidableEq

namespace RunResult

def succeeded (file : RunFile) (series : Series) : RunResult :=
  ⟨file.trial, file.name, file.path, some series, none⟩

def failed (file : RunFile) (error : String) : RunResult :=
  ⟨file.trial, file.name, file.path, none, some error⟩

def isSuccess (result : RunResult) : Bool := result.series.isSome

/-- Puts a result behind all results whose run name is not greater. -/
def insertByRun (result : RunResult) : List RunResult → List RunResult
  | [] => [result]
  | other :: rest =>
    if compare result.run other.run = .lt then result :: other :: rest
    else other :: insertByRun result rest

end RunResult

/-- The results of each trial, in order. -/
def groupByTrial (results : List RunResult) : SortedMap String (List RunResult) :=
  results.foldl
    (fun groups result ↦ SortedMap.alter groups result.trial fun old ↦
      result.insertByRun (old.getD []))
    ∅

end TrialSeries
