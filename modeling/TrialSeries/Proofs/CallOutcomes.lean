import TrialSeries.Proofs.CallEndings

/-!
# The outcome of a call

A call that aggregates run files in a directory does three things: it finds its configuration, makes
its report and writes that. `concluded` says what comes of it, all events apart, without going
through an environment.
-/

namespace TrialSeries.Program

/-- Why a report is not written at a path. -/
def writeFailure (path : String) (error : FileError) : String :=
  "Failed to write report to " ++ path ++ ": " ++ error.message

/-- The outcome of a call under a configuration, and the directory after it. -/
def delivered (clock : Clock) (directory : Directory) (arguments : Arguments)
    (configuration : Configuration) : Outcome × Directory :=
  let report := reportIn clock directory arguments configuration
  let path := configuration.outputPath arguments.format
  match reportText arguments.format configuration.report report with
  | .error error => (⟨101, "", [error.message], []⟩, directory)
  | .ok text =>
    match directory.write path text with
    | .ok after => (⟨exitCodeOf arguments report.metadata, "", [], []⟩, after)
    | .error error => (.failed (writeFailure path error), directory)

/-- The outcome of a call under the configuration that it finds, and the directory after it. -/
def concluded (clock : Clock) (directory : Directory) (arguments : Arguments) :
    Outcome × Directory :=
  match configurationIn directory arguments with
  | .error error => (.failed error.message, directory)
  | .ok configuration => delivered clock directory arguments configuration

/-- A call comes to an end, whatever it has reported on the way. -/
structure ComesTo (call ending : Outcome × Directory) : Prop where
  exitCode_eq : call.1.exitCode = ending.1.exitCode
  output_eq : call.1.output = ending.1.output
  complaints_eq : call.1.complaints = ending.1.complaints
  after_eq : call.2 = ending.2

section Runs

variable {clock : Clock} {directory : Directory} {arguments : Arguments}

theorem comesTo_deliver (configuration : Configuration) (events : List Event) :
    ComesTo ((deliver (Directory.environment clock) arguments configuration
        (resultsIn directory arguments configuration) events).run directory)
      (delivered clock directory arguments configuration) := by
  simp only [deliver, run_clock_bind, delivered, reportIn]
  cases reportText arguments.format configuration.report
      (.ofRuns clock.now clock.elapsed (resultsIn directory arguments configuration)) with
  | error error => exact ⟨rfl, rfl, rfl, rfl⟩
  | ok text =>
    simp only [run_write_bind, Directory.written]
    cases directory.write (configuration.outputPath arguments.format) text with
    | ok after => exact ⟨rfl, rfl, rfl, rfl⟩
    | error error => exact ⟨rfl, rfl, rfl, rfl⟩

theorem comesTo_aggregateWith (configuration : Configuration) (source : ConfigurationSource) :
    ComesTo ((aggregateWith (Directory.environment clock) arguments configuration source).run
        directory)
      (delivered clock directory arguments configuration) := by
  simp only [aggregateWith]
  rw [run_bind_of_run (run_mapM_read _), zipWith_read]
  -- Which events are shown is decided after the report is delivered.
  obtain ⟨hcode, houtput, hcomplaints, hafter⟩ := @comesTo_deliver clock directory arguments
    configuration (openingEvents arguments source ++ _)
  exact ⟨hcode, houtput, hcomplaints, hafter⟩

/-- A call that aggregates run files comes to its conclusion. -/
theorem comesTo_concluded {words : List String}
    (hwords : CommandLine.read words = .ok (.run arguments)) (hvalid : arguments.error? = none)
    (hinit : arguments.initConfig = false) :
    ComesTo (runIn clock directory words) (concluded clock directory arguments) := by
  obtain ⟨loaded, hrun, hconfiguration⟩ := @run_load clock directory arguments
  simp only [runIn, run, hwords, hvalid, hinit, concluded, ← hconfiguration, aggregate]
  rw [if_neg Bool.false_ne_true, run_bind_of_run hrun]
  cases loaded with
  | error error => exact ⟨rfl, rfl, rfl, rfl⟩
  | ok loaded => exact comesTo_aggregateWith (loaded.1.withArguments arguments) loaded.2

end Runs

end TrialSeries.Program
