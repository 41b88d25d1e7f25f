import TrialSeries.Aggregation
import TrialSeries.Report
import TrialSeries.RuleTable

/-!
# The configuration of the program

What a configuration file can set: the output and the amount of logging, the extraction rules, the
alignment of vectors and the form of the report. A setting that is left out has its standard value.
-/

namespace TrialSeries

structure Configuration where
  /-- The path of the report, if it is chosen. -/
  output : Option String
  verbose : Bool
  table : RuleTable
  alignment : Alignment
  report : ReportOptions
deriving DecidableEq

namespace Configuration

def standard : Configuration := ⟨none, false, .builtIn, .truncate, .standard⟩

instance : Inhabited Configuration := ⟨standard⟩

end Configuration

end TrialSeries
