import TrialSeries.Data.Structure
import TrialSeries.Report

/-!
# Runs and reports as data

How blocks, series, results and reports stand in data files. A setting is a number or a text, an
axis a record with the one field `scalar` or `vector`, and a map a record with its keys as field
names, of which the last one counts when a name is repeated.
-/

namespace TrialSeries

open Data

namespace Binary64

/-- Numbers that are not finite are written as null, which is not read back. -/
def toData (value : Binary64) : Data := .real value

end Binary64

namespace SortedMap

variable {α : Type}

def toData (write : α → Data) (map : SortedMap String α) : Data :=
  .record (map.entries.map fun (name, value) ↦ (name, write value))

def ofData? (read : Data → Option α) : Data → Option (SortedMap String α)
  | .record fields =>
    (fields.mapM fun (field : String × Data) ↦ (read field.2).map (field.1, ·)).map ofList
  | _ => none

end SortedMap

namespace Setting

def toData : Setting → Data
  | number value => value.toData
  | label content => .text content

def ofData? : Data → Option Setting
  | .text content => some (.label content)
  | data => (real? data).map .number

end Setting

namespace Axis

def toData : Axis → Data
  | point setting => .record [("scalar", setting.toData)]
  | positions values => .record [("vector", .sequence (values.map Binary64.toData))]

def ofData? : Data → Option Axis
  | .record [(kind, data)] =>
    if kind = "scalar" then (Setting.ofData? data).map .point
    else if kind = "vector" then (list? real? data).map .positions
    else none
  | _ => none

end Axis

namespace Block

def toData (block : Block) : Data :=
  .record [("x", block.axis.toData),
    ("metrics", block.metrics.toData fun values ↦ .sequence (values.map Binary64.toData))]

def ofData? (data : Data) : Option Block := do
  let [axis, metrics] ← slots? ["x", "metrics"] data | none
  return ⟨← axis.required Axis.ofData?, ← metrics.required (SortedMap.ofData? (list? real?))⟩

end Block

namespace Statistics

def toData (statistics : Statistics) : Data :=
  .record [("mean", .sequence (statistics.mean.map Binary64.toData)),
    ("stddev", .sequence (statistics.deviation.map Binary64.toData)),
    ("count", .sequence (statistics.count.map fun (count : Nat) ↦ .integer count))]

def ofData? (data : Data) : Option Statistics := do
  let [mean, deviation, count] ← slots? ["mean", "stddev", "count"] data | none
  return ⟨← mean.required (list? real?), ← deviation.required (list? real?),
    ← count.orDefault (list? natural?) []⟩

end Statistics

namespace Series

def toData (series : Series) : Data :=
  .record [("x", .sequence (series.settings.map Setting.toData)),
    ("blocks", .sequence (series.blocks.map fun (count : Nat) ↦ .integer count)),
    ("metrics", series.metrics.toData Statistics.toData),
    ("truncated", .integer series.truncated)]

def ofData? (data : Data) : Option Series := do
  let [settings, blocks, metrics, truncated] ←
    slots? ["x", "blocks", "metrics", "truncated"] data | none
  return ⟨← settings.required (list? Setting.ofData?), ← blocks.required (list? natural?),
    ← metrics.required (SortedMap.ofData? Statistics.ofData?), ← truncated.orDefault natural? 0⟩

end Series

namespace RunFile

def toData (file : RunFile) : Data :=
  .record [("trial", .text file.trial), ("name", .text file.name), ("path", .text file.path)]

def ofData? (data : Data) : Option RunFile := do
  let [trial, name, path] ← slots? ["trial", "name", "path"] data | none
  return ⟨← trial.required text?, ← name.required text?, ← path.required text?⟩

end RunFile

namespace RunResult

def toData (result : RunResult) : Data :=
  .record ([("trial", .text result.trial), ("run", .text result.run),
      ("path", .text result.path)] ++
    fieldIfPresent "series" Series.toData result.series ++
    fieldIfPresent "error" .text result.error)

def ofData? (data : Data) : Option RunResult := do
  let [trial, run, path, series, error] ←
    slots? ["trial", "run", "path", "series", "error"] data | none
  return ⟨← trial.required text?, ← run.required text?, ← path.required text?,
    ← series.orOmitted Series.ofData?, ← error.orOmitted text?⟩

end RunResult

namespace ReportMetadata

def toData (metadata : ReportMetadata) : Data :=
  .record [("generated_at", .text metadata.generatedAt.dataText),
    ("tool_version", .text metadata.version),
    ("runs_processed", .integer metadata.processed), ("runs_failed", .integer metadata.failed),
    ("duration_seconds", metadata.duration.toData)]

def ofData? (data : Data) : Option ReportMetadata := do
  let [generatedAt, version, processed, failed, duration] ←
    slots? ["generated_at", "tool_version", "runs_processed", "runs_failed", "duration_seconds"]
      data | none
  return ⟨← generatedAt.required fun data ↦ (text? data).bind Timestamp.parse?,
    ← version.required text?, ← processed.required natural?, ← failed.required natural?,
    ← duration.required real?⟩

end ReportMetadata

namespace Report

def toData (report : Report) : Data :=
  .record [("metadata", report.metadata.toData),
    ("runs", .sequence (report.runs.map RunResult.toData))]

def ofData? (data : Data) : Option Report := do
  let [metadata, runs] ← slots? ["metadata", "runs"] data | none
  return ⟨← metadata.required ReportMetadata.ofData?, ← runs.required (list? RunResult.ofData?)⟩

end Report

end TrialSeries
