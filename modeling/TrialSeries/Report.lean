import TrialSeries.RunResult
import TrialSeries.Timestamp

/-!
# Reports

A report is the results of all runs of one call of the program, with the time and the length of the
call and the numbers of runs and of failed runs.
-/

namespace TrialSeries

def toolName : String := "trialstats"

def toolVersion : String := "0.1.0"

structure ReportMetadata where
  generatedAt : Timestamp
  version : String
  processed : Nat
  failed : Nat
  /-- The length of the call in seconds. -/
  duration : Binary64
deriving DecidableEq

structure Report where
  metadata : ReportMetadata
  runs : List RunResult
deriving DecidableEq

/-- The choices of a reader about a report. -/
structure ReportOptions where
  /-- The places of numbers in tables. -/
  precision : Nat
  /-- Failed runs are listed with their errors. -/
  includeFailed : Bool
deriving DecidableEq

namespace ReportOptions

def standard : ReportOptions := ⟨3, true⟩

instance : Inhabited ReportOptions := ⟨standard⟩

end ReportOptions

namespace Report

def failedCount (runs : List RunResult) : Nat := runs.countP fun run ↦ !run.isSuccess

/-- The report of some runs. -/
def ofRuns (generatedAt : Timestamp) (duration : Binary64) (runs : List RunResult) : Report :=
  ⟨⟨generatedAt, toolVersion, runs.length, failedCount runs, duration⟩, runs⟩

end Report

end TrialSeries
