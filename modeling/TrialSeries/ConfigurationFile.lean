import TrialSeries.Arguments
import TrialSeries.Encoding.Configuration
import TrialSeries.FileError
import TrialSeries.Toml.Document

/-!
# Configuration files

A configuration file is a TOML text. `Configuration.fileText` writes one that says everything, and
`Configuration.ofFileText?` reads one, in which everything may be left out. Arguments of the program
win over what a file says.
-/

namespace TrialSeries

/-- Why there is no configuration from a file. -/
inductive ConfigurationError where
  | unreadable (path : String) (error : FileError)
  | malformed (path : String)
deriving DecidableEq

def ConfigurationError.message : ConfigurationError → String
  | unreadable path error => "Failed to read config file: " ++ path ++ ": " ++ error.message
  | malformed path => "Failed to parse config file: " ++ path

namespace Configuration

/-- The name of the file that is read if no other is chosen. -/
def fileName : String := ".trialstats.toml"

/-! ## Reading -/

def ofFileText? (text : String) : Option Configuration := do ofData? .toml (← Toml.read text)

/-- The configuration in the file at a path, given its content. -/
def ofFile (path : String) (content : Except FileError String) :
    Except ConfigurationError Configuration :=
  match content with
  | .error error => .error (.unreadable path error)
  | .ok text => match ofFileText? text with
    | some configuration => .ok configuration
    | none => .error (.malformed path)

/-! ## Writing -/

/-- The lines of a table: its header and its pairs. -/
def tableLines (header : String) (pairs : List (String × String)) : List String :=
  header :: pairs.map fun (key, value) ↦ key ++ " = " ++ value

def extractionPairs : Extraction → List (String × String)
  | .field index separator =>
    [("kind", "\"field\""), ("index", toString index),
      ("separator", Toml.quoted (String.singleton separator))]
  | .whole => [("kind", "\"raw\"")]
  | .vector separator =>
    [("kind", "\"vector\""), ("separator", Toml.quoted (String.singleton separator))]

/-- The pair of a text, if there is one. -/
def textPair (key : String) : Option String → List (String × String)
  | none => []
  | some text => [(key, Toml.quoted text)]

/-- The two tables of a rule. -/
def ruleTables (rule : TrialRule) : List (List String) :=
  [tableLines "[[extraction.rules]]"
      (("trial", Toml.quoted rule.trial) :: textPair "run_contains" rule.fragment),
    tableLines "[extraction.rules.extract]" (extractionPairs rule.extraction)]

/-- The tables of a rule table; one without rules has to say so. -/
def ruleTableTables (table : RuleTable) : List (List String) :=
  (if table.rules = [] then [tableLines "[extraction]" [("rules", "[]")]]
    else table.rules.flatMap ruleTables) ++
  match table.fallback with
  | none => []
  | some extraction => [tableLines "[extraction.fallback]" (extractionPairs extraction)]

/-- The tables of a configuration file. -/
def tables (configuration : Configuration) : List (List String) :=
  [tableLines "[general]" (textPair "output" configuration.output ++
      [("verbose", toString configuration.verbose)])] ++
  ruleTableTables configuration.table ++
  [tableLines "[aggregation]"
      [("vector_alignment", Toml.quoted configuration.alignment.name)],
    tableLines "[report]" [("precision", toString configuration.report.precision),
      ("include_failed", toString configuration.report.includeFailed)]]

/-- The text of a configuration file, with a blank line between its tables. -/
def fileText (configuration : Configuration) : String :=
  "\n".intercalate (configuration.tables.map fun lines ↦ String.join (lines.map (· ++ "\n")))

/-! ## Together with arguments -/

/-- The configuration under arguments: what they give explicitly replaces what it says. -/
def withArguments (configuration : Configuration) (arguments : Arguments) : Configuration where
  output := arguments.output <|> configuration.output
  verbose := arguments.verbose || configuration.verbose
  table := configuration.table
  alignment := arguments.alignment.getD configuration.alignment
  report := { configuration.report with
    precision := arguments.precision.getD configuration.report.precision }

/-- The name of a report without its ending, if no path is chosen. -/
def reportName : String := "trialstats_report"

/-- The path of a report in a format. -/
def outputPath (configuration : Configuration) (format : ReportFormat) : String :=
  configuration.output.getD (reportName ++ "." ++ format.ending)

end Configuration

end TrialSeries
