import TrialSeries.Report
import TrialSeries.Text.LetterCase

/-!
# Reports for readers

The Markdown form of a report is a list of lines in sections: metadata, contents, a summary with one
row for each run, the results with one table for each successful run, and the failed runs. Runs are
ordered by trial and name, but failed runs stay in their order. A table needs an entry for each of
its settings; a count that is missing is shown as zero.
-/

namespace TrialSeries

/-- A reason why a report has no Markdown form. -/
inductive RenderError where
  /-- A list of a series ends before its settings do. -/
  | missingEntry
  /-- Numbers cannot be written with so many places. -/
  | precisionOutOfRange
deriving DecidableEq

def RenderError.message : RenderError → String
  | missingEntry => "a series ends before its settings do"
  | precisionOutOfRange => "numbers cannot be written with so many places"

namespace Report.Markdown

def metadataLines (metadata : ReportMetadata) : List String :=
  ["## Metadata", "",
   "- **Generated:** " ++ metadata.generatedAt.display,
   "- **Version:** " ++ metadata.version,
   "- **Runs Processed:** " ++ toString metadata.processed] ++
  (if metadata.failed = 0 then [] else ["- **Runs Failed:** " ++ toString metadata.failed]) ++
  ["- **Duration:** " ++ metadata.duration.fixed 2 ++ "s", ""]

/-! ## Contents -/

def separatorsToDashes (char : Char) : Char :=
  if char = '/' ∨ char = '.' ∨ char = ' ' ∨ char = '_' then '-' else char

/-- The name under which other parts of the report refer to the table of a run. -/
def anchor (trial run : String) : String :=
  Text.lower (String.ofList ((trial ++ "-" ++ run).toList.map separatorsToDashes))

def contentsEntry (result : RunResult) : String :=
  "    - [" ++ result.run ++ "](#" ++ anchor result.trial result.run ++ ")"

def contentsOfTrial (trial : String) (results : List RunResult) : List String :=
  ("  - " ++ trial) :: (results.filter (·.isSuccess)).map contentsEntry

def contentsLines (runs : List RunResult) : List String :=
  ["## Table of Contents", "", "- [Metadata](#metadata)", "- [Summary](#summary)",
   "- [Results](#results)"] ++
  ((groupByTrial runs).entries.flatMap fun (trial, results) ↦ contentsOfTrial trial results) ++
  [""]

/-! ## Summary -/

def summaryRow (trial : String) (result : RunResult) : String :=
  "| " ++ trial ++ " | `" ++ result.run ++ "` | " ++
    match result.series with
    | some series =>
      toString series.length ++ " | " ++ toString series.metrics.size ++ " | " ++
        toString series.truncated ++ " | ok |"
    | none => "- | - | - | failed |"

def summaryLines (runs : List RunResult) : List String :=
  ["## Summary", "", "| Trial | Run | x values | Metrics | Truncated | Status |",
   "|:---|:---|:---:|:---:|:---:|:---:|"] ++
  ((groupByTrial runs).entries.flatMap fun (trial, results) ↦ results.map (summaryRow trial)) ++
  [""]

/-! ## Results -/

/-- The greatest number of places with which a number can be written. -/
def maxPrecision : Nat := 65535

/-- A statistic in a table; the statistics of no values are not available. -/
def cellNumber (precision : Nat) (value : Binary64) : Except RenderError String :=
  if value.isNaN then .ok "n/a"
  else if maxPrecision < precision then .error .precisionOutOfRange
  else .ok (value.fixed precision)

def entryAt {α : Type} (entries : List α) (place : Nat) : Except RenderError α :=
  match entries[place]? with
  | some entry => .ok entry
  | none => .error .missingEntry

def cell (precision place : Nat) (statistics : Statistics) : Except RenderError String := do
  let mean ← cellNumber precision (← entryAt statistics.mean place)
  let deviation ← cellNumber precision (← entryAt statistics.deviation place)
  return " " ++ mean ++ " ± " ++ deviation ++
    " (n=" ++ toString (statistics.count[place]?.getD 0) ++ ") |"

/-- The row of the setting at one place. -/
def tableRow (precision : Nat) (series : Series) (place : Nat) (setting : Setting) :
    Except RenderError String := do
  let blocks ← entryAt series.blocks place
  let cells ← series.metrics.values.mapM (cell precision place)
  return "| " ++ setting.display ++ " | " ++ toString blocks ++ " |" ++ String.join cells

def headerRow (names : List String) : String :=
  "| x | blocks |" ++ String.join (names.map fun name ↦ " " ++ name ++ " |")

def delimiterRow (names : List String) : String :=
  "|---:|---:|" ++ String.join (names.map fun _ ↦ "---:|")

def truncationNote (truncated : Nat) : List String :=
  if truncated = 0 then []
  else ["> **Note:** " ++ toString truncated ++ " observation(s) dropped to align x vectors.", ""]

/-- The table of a series, or a remark that it has no settings. -/
def tableLines (precision : Nat) (series : Series) : Except RenderError (List String) :=
  if series.isEmpty then .ok ["*No settings blocks found.*", ""]
  else do
    let rows ← series.settings.zipIdx.mapM fun (setting, place) ↦
      tableRow precision series place setting
    return truncationNote series.truncated ++
      [headerRow series.metrics.keys, delimiterRow series.metrics.keys] ++ rows ++ [""]

def runHeading (result : RunResult) : String :=
  "#### " ++ result.run ++ " \x7b#" ++ anchor result.trial result.run ++ "\x7d"

/-- The heading and the table of a run; nothing for a failed one. -/
def runLines (precision : Nat) (result : RunResult) : Except RenderError (List String) :=
  match result.series with
  | none => .ok []
  | some series => do return runHeading result :: "" :: (← tableLines precision series)

/-- The tables of a trial; nothing if all its runs failed. -/
def trialLines (precision : Nat) (trial : String) (results : List RunResult) :
    Except RenderError (List String) :=
  if results.any (·.isSuccess) then do
    return ("### " ++ trial) :: "" :: (← results.mapM (runLines precision)).flatten
  else .ok []

def resultsLines (precision : Nat) (runs : List RunResult) : Except RenderError (List String) :=
  if runs.any (·.isSuccess) then do
    let trials ← (groupByTrial runs).entries.mapM fun (trial, results) ↦
      trialLines precision trial results
    return "## Results" :: "" :: trials.flatten
  else .ok ["## Results", "", "No run file was aggregated successfully.", ""]

/-! ## Failed runs -/

def failureLine (result : RunResult) : String :=
  "- **" ++ result.trial ++ "/" ++ result.run ++ "**: " ++ result.error.getD "unknown error"

def failureLines (runs : List RunResult) : List String :=
  let failed := runs.filter fun run ↦ !run.isSuccess
  if failed = [] then [] else ["## Failed Runs", ""] ++ failed.map failureLine ++ [""]

/-! ## The report -/

def footerLines : List String :=
  ["---", "", "*Report generated by " ++ toolName ++ " v" ++ toolVersion ++ "*"]

def lines (options : ReportOptions) (report : Report) : Except RenderError (List String) := do
  let results ← resultsLines options.precision report.runs
  return ["# Trialstats Report", ""] ++ metadataLines report.metadata ++
    contentsLines report.runs ++ summaryLines report.runs ++ results ++
    (if options.includeFailed then failureLines report.runs else []) ++ footerLines

end Report.Markdown

/-- The Markdown text of a report. -/
def Report.markdown (options : ReportOptions) (report : Report) : Except RenderError String := do
  return String.join ((← Markdown.lines options report).map (· ++ "\n"))

end TrialSeries
