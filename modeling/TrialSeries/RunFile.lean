import TrialSeries.Path

/-!
# Run files

A run file is a log at a path. Logs are kept as `directory/trial/run`, so the path names the trial
and the run unless the trial is given.
-/

namespace TrialSeries

structure RunFile where
  trial : String
  name : String
  path : String
deriving DecidableEq, Inhabited

namespace RunFile

/-- The run file at a path. A name that the path does not show is empty. -/
def ofPath (path : String) (trial : Option String) : RunFile where
  trial := trial.getD ((Path.parentName? path).getD "")
  name := (Path.fileName? path).getD ""
  path := path

/-- The run as messages name it. -/
def label (file : RunFile) : String := file.trial ++ "/" ++ file.name

end RunFile

end TrialSeries
