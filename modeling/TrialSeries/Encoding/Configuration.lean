import TrialSeries.Configuration
import TrialSeries.Encoding.Rules

/-!
# Configurations as data

A configuration is a record of four sections, each of which may be left out, as may the fields in
it.
-/

namespace TrialSeries

open Data

namespace ReportOptions

def toData (options : ReportOptions) : Data :=
  .record [("precision", .integer options.precision),
    ("include_failed", .boolean options.includeFailed)]

def ofData? (format : DataFormat) (data : Data) : Option ReportOptions := do
  let [precision, includeFailed] ← format.slots? ["precision", "include_failed"] data | none
  return ⟨← precision.orDefault natural? standard.precision,
    ← includeFailed.orDefault boolean? standard.includeFailed⟩

end ReportOptions

namespace Configuration

/-- The output path and the verbosity. -/
def generalOfData? (format : DataFormat) (data : Data) : Option (Option String × Bool) := do
  let [output, verbose] ← format.slots? ["output", "verbose"] data | none
  return (← output.orDefault (optional? text?) none, ← verbose.orDefault boolean? false)

def alignmentOfData? (format : DataFormat) (data : Data) : Option Alignment := do
  let [alignment] ← format.slots? ["vector_alignment"] data | none
  alignment.orDefault (Alignment.ofData? format) .truncate

def toData (configuration : Configuration) : Data :=
  .record [("general", .record (fieldIfPresent "output" .text configuration.output ++
      [("verbose", .boolean configuration.verbose)])),
    ("extraction", configuration.table.toData),
    ("aggregation", .record [("vector_alignment", configuration.alignment.toData)]),
    ("report", configuration.report.toData)]

def ofData? (format : DataFormat) (data : Data) : Option Configuration := do
  let [general, extraction, aggregation, report] ←
    format.slots? ["general", "extraction", "aggregation", "report"] data | none
  let (output, verbose) ← general.orDefault (generalOfData? format) (none, false)
  return ⟨output, verbose, ← extraction.orDefault (RuleTable.ofData? format) .builtIn,
    ← aggregation.orDefault (alignmentOfData? format) .truncate,
    ← report.orDefault (ReportOptions.ofData? format) .standard⟩

end Configuration

end TrialSeries
