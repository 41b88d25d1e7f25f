import TrialSeries.CommandLine
import TrialSeries.ConfigurationFile
import TrialSeries.Encoding.Runs
import TrialSeries.Environment
import TrialSeries.Json.Writer
import TrialSeries.Processing
import TrialSeries.Report.Markdown

/-!
# The program

A call of the program reads its command line and its configuration, processes the run files that it
is given, each on its own, and writes one report of them all. `Program.run` does so in any
environment, and `Program.runIn` in a directory. A call that is refused, or that cannot read the
configuration file it is told to read, writes nothing.
-/

namespace TrialSeries

/-- What a call of the program amounts to, apart from the files it writes. -/
structure Outcome where
  exitCode : Nat
  output : String
  /-- The messages for the user that are no events. -/
  complaints : List String
  /-- The events that are shown. -/
  events : List Event
deriving DecidableEq

namespace Outcome

/-- A call that ends well with some output. -/
def done (output : String) : Outcome := ⟨0, output, [], []⟩

/-- A call that fails. -/
def failed (message : String) : Outcome := ⟨1, "", ["Error: " ++ message], []⟩

end Outcome

/-- Where the configuration of a call comes from. -/
inductive ConfigurationSource where
  | chosenFile (path : String)
  | defaultFile
  | builtIn
  /-- The file that is read if no other is chosen could not be read, and does not count. -/
  | ignoredFile (error : ConfigurationError)
deriving DecidableEq

def ConfigurationSource.event : ConfigurationSource → Event
  | chosenFile path => ⟨.info, "Loaded config from: " ++ path⟩
  | defaultFile => ⟨.info, "Loaded default config from " ++ Configuration.fileName⟩
  | builtIn => ⟨.debug, "No config file found, using defaults"⟩
  | ignoredFile error => ⟨.warn, "Failed to load config: " ++ error.message⟩

namespace Program

variable {m : Type → Type} [Monad m]

/-! ## Configuration -/

/-- The configuration in the file that is read if no other is chosen. -/
def loadDefault (environment : Environment m) : m (Configuration × ConfigurationSource) := do
  if ← environment.isPresent Configuration.fileName then
    match Configuration.ofFile Configuration.fileName
        (← environment.read Configuration.fileName) with
    | .ok configuration => return (configuration, .defaultFile)
    | .error error => return (.standard, .ignoredFile error)
  else return (.standard, .builtIn)

/-- The configuration of a call, from a chosen file if there is one. -/
def load (environment : Environment m) :
    Option String → m (Except ConfigurationError (Configuration × ConfigurationSource))
  | some path => do
    return (Configuration.ofFile path (← environment.read path)).map (·, .chosenFile path)
  | none => do return .ok (← loadDefault environment)

/-- Writes a configuration file that changes nothing, unless there is one. -/
def initConfig (environment : Environment m) : m Outcome := do
  if ← environment.isPresent Configuration.fileName then
    return ⟨1, "", [Configuration.fileName ++
      " already exists. Remove it first or edit it manually."], []⟩
  else match ← environment.write Configuration.fileName Configuration.standard.fileText with
    | .ok () => return .done ("Created " ++ Configuration.fileName ++ " with default settings.\n")
    | .error error =>
      return .failed ("Failed to write " ++ Configuration.fileName ++ "\n\nCaused by:\n    " ++
        error.message)

/-! ## Reports -/

def reportText (format : ReportFormat) (options : ReportOptions) (report : Report) :
    Except RenderError String :=
  match format with
  | .json => .ok (Json.indented report.toData)
  | .markdown => report.markdown options

/-- What is reported after the report is written. -/
def closingEvents (path : String) (metadata : ReportMetadata) : List Event :=
  ⟨.info, "Aggregated " ++ toString (metadata.processed - metadata.failed) ++ "/" ++
    toString metadata.processed ++ " run file(s), report saved to " ++ path⟩ ::
  if metadata.failed = 0 then []
  else [⟨.warn, toString metadata.failed ++ " run file(s) failed"⟩]

/-- A call with failed run files fails only if it is told to. -/
def exitCodeOf (arguments : Arguments) (metadata : ReportMetadata) : Nat :=
  if metadata.failed ≠ 0 ∧ arguments.failOnError then 2 else 0

/-- Writes the report of the results; `events` is what was reported before. -/
def deliver (environment : Environment m) (arguments : Arguments) (configuration : Configuration)
    (results : List RunResult) (events : List Event) : m Outcome := do
  let clock ← environment.clock
  let report := Report.ofRuns clock.now clock.elapsed results
  match reportText arguments.format configuration.report report with
  | .error error => return ⟨101, "", [error.message], events⟩
  | .ok text =>
    let path := configuration.outputPath arguments.format
    match ← environment.write path text with
    | .ok () =>
      return ⟨exitCodeOf arguments report.metadata, "", [],
        events ++ closingEvents path report.metadata⟩
    | .error error =>
      let message := "Failed to write report to " ++ path ++ ": " ++ error.message
      return { Outcome.failed message with
        events := events ++ [⟨.error, "Aggregation failed: " ++ message⟩] }

/-! ## Calls -/

/-- What is reported before the first run file is processed. -/
def openingEvents (arguments : Arguments) (source : ConfigurationSource) : List Event :=
  [⟨.info, toolName ++ " v" ++ toolVersion⟩, ⟨.debug, "Arguments: " ++ arguments.describe⟩,
    source.event,
    ⟨.info, "Processing " ++ toString arguments.files.length ++ " run file(s)"⟩]

/-- Processes the run files under a configuration and delivers the report. -/
def aggregateWith (environment : Environment m) (arguments : Arguments)
    (configuration : Configuration) (source : ConfigurationSource) : m Outcome := do
  let files := arguments.files.map (RunFile.ofPath · arguments.trial)
  let contents ← files.mapM (environment.read ·.path)
  let results := files.zipWith
    (RunFile.result configuration.table configuration.alignment) contents
  let events := files.zipWith
    (RunFile.events configuration.table configuration.alignment) contents
  let outcome ← deliver environment arguments configuration results
    (openingEvents arguments source ++ events.flatten)
  return { outcome with
    events := Event.shownAt (arguments.level configuration.verbose) outcome.events }

/-- A call that aggregates run files. -/
def aggregate (environment : Environment m) (arguments : Arguments) : m Outcome := do
  match ← load environment arguments.config with
  | .error error => return .failed error.message
  | .ok (configuration, source) =>
    aggregateWith environment arguments (configuration.withArguments arguments) source

/-- A summary of the options in words of its own. It is not the text that the command-line library
makes from the options, and nothing is compared with it; only that help is shown is settled. -/
def helpText : String :=
  "Usage: trialstats [OPTIONS] <FILE>...\n\n" ++
  "Aggregates repeated simulation runs: reads run logs, groups their blocks by the swept\n" ++
  "parameter and reports the mean and standard deviation of every metric.\n\n" ++
  "  -t, --trial <NAME>      Trial name of every run file\n" ++
  "  -c, --config <FILE>     Path of the configuration file\n" ++
  "  -o, --output <FILE>     Path of the report\n" ++
  "      --format <FORMAT>   Format of the report: markdown or json\n" ++
  "      --alignment <MODE>  Vectors of differing lengths: truncate or reject\n" ++
  "      --precision <N>     Decimal places in Markdown tables\n" ++
  "  -v, --verbose           Show more of the log\n" ++
  "  -q, --quiet             Show errors only\n" ++
  "      --fail-on-error     Exit with code 2 if any run file fails\n" ++
  "      --init-config       Write a configuration file with the default settings\n" ++
  "  -h, --help              Show this text\n" ++
  "  -V, --version           Show the version\n"

/-- A call of the program with the words of its command line. -/
def run (environment : Environment m) (words : List String) : m Outcome :=
  match CommandLine.read words with
  | .error error => return ⟨2, "", ["error: " ++ error.message], []⟩
  | .ok .help => return .done helpText
  | .ok .version => return .done (toolName ++ " " ++ toolVersion ++ "\n")
  | .ok (.run arguments) =>
    match arguments.error? with
    | some error => return .failed error.message
    | none =>
      if arguments.initConfig then initConfig environment else aggregate environment arguments

/-- A call of the program in a directory, and the directory after it. -/
def runIn (clock : Clock) (directory : Directory) (words : List String) : Outcome × Directory :=
  (run (Directory.environment clock) words).run directory

end Program

end TrialSeries
