import TrialSeries.Aggregation
import TrialSeries.RuleTable
import TrialSeries.RunError
import TrialSeries.RunLog
import TrialSeries.RunResult

/-!
# Processing run files

A run file becomes a result in four steps, each of which may fail: its rule is looked up, its
content is read, the blocks of the log are read under the rule, and the blocks are aggregated. Each
run file is processed on its own, so a failure of one says nothing about another.
-/

namespace TrialSeries

namespace RunFile

/-- The blocks of the run file with the given content under its rule. -/
def blocks (file : RunFile) (rule : Extraction) (content : Except FileError String) :
    Except RunError (List Block) := do
  let text ← content.mapError (.unreadable file.path)
  (RunLog.parse rule text).mapError (.malformedLog file.path)

/-- The series of the run file with the given content. -/
def series (table : RuleTable) (alignment : Alignment) (file : RunFile)
    (content : Except FileError String) : Except RunError Series :=
  match table.ruleFor? file.trial file.name with
  | none => .error (.noRule file.trial file.name)
  | some rule => do
    let blocks ← file.blocks rule content
    (Series.ofBlocks alignment blocks).mapError (.inconsistentBlocks file.path)

/-- The result of the run file with the given content. -/
def result (table : RuleTable) (alignment : Alignment) (file : RunFile)
    (content : Except FileError String) : RunResult :=
  match file.series table alignment content with
  | .ok series => .succeeded file series
  | .error error => .failed file error.message

/-! ## Events -/

/-- What is reported on the way from the rule to the series. -/
def stepEvents (alignment : Alignment) (file : RunFile) (rule : Extraction)
    (content : Except FileError String) : List Event :=
  let logEvents := match content with
    | .ok text => RunLog.events rule text
    | .error _ => []
  let seriesEvents := match file.blocks rule content with
    | .ok blocks => Aggregation.events alignment blocks
    | .error _ => []
  [⟨.debug, file.label ++ ": using rule " ++ rule.describe⟩] ++ logEvents ++ seriesEvents

/-- What is reported about the outcome. -/
def outcomeEvent (file : RunFile) : Except RunError Series → Event
  | .ok series => ⟨.info, file.label ++ ": " ++ toString series.length ++ " x value(s), " ++
      toString series.metrics.size ++ " metric(s)"⟩
  | .error error => ⟨.warn, file.label ++ ": " ++ error.message⟩

/-- What is reported while a run file is processed. -/
def events (table : RuleTable) (alignment : Alignment) (file : RunFile)
    (content : Except FileError String) : List Event :=
  (match table.ruleFor? file.trial file.name with
    | some rule => file.stepEvents alignment rule content
    | none => []) ++
  [file.outcomeEvent (file.series table alignment content)]

end RunFile

end TrialSeries
