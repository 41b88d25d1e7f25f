import TrialSeries.Aggregation
import TrialSeries.Event
import TrialSeries.Text.Characters
import TrialSeries.Text.Quoted

/-!
# Arguments of the program

What a command line asks for. Arguments that are well-formed may still be refused, as when there is
no run file among them.
-/

namespace TrialSeries

inductive ReportFormat where
  | markdown
  | json
deriving DecidableEq, Inhabited

namespace ReportFormat

/-- The ending of a file in the format. -/
def ending : ReportFormat → String
  | markdown => "md"
  | json => "json"

/-- The format as the log of the program names it. -/
def describe : ReportFormat → String
  | markdown => "Markdown"
  | json => "Json"

end ReportFormat

structure Arguments where
  /-- The paths of the run files. -/
  files : List String
  /-- The trial of all run files. -/
  trial : Option String
  /-- The path of the configuration file. -/
  config : Option String
  /-- The path of the report. -/
  output : Option String
  format : ReportFormat
  alignment : Option Alignment
  /-- The places of numbers in tables. -/
  precision : Option Nat
  verbose : Bool
  quiet : Bool
  /-- A failed run file makes the call fail. -/
  failOnError : Bool
  /-- A configuration file is to be written, and nothing else done. -/
  initConfig : Bool
deriving DecidableEq

/-- A reason to refuse well-formed arguments. -/
inductive ArgumentsError where
  | noFiles
  | verboseAndQuiet
  | precisionTooLarge
  | blankTrial
deriving DecidableEq

def ArgumentsError.message : ArgumentsError → String
  | noFiles => "At least one run file is required"
  | verboseAndQuiet => "Cannot use both --verbose and --quiet"
  | precisionTooLarge => "Precision must be at most 12 digits"
  | blankTrial => "Trial name must not be empty"

namespace Arguments

/-- Arguments that ask for nothing. -/
def empty : Arguments where
  files := []
  trial := none
  config := none
  output := none
  format := .markdown
  alignment := none
  precision := none
  verbose := false
  quiet := false
  failOnError := false
  initConfig := false

instance : Inhabited Arguments := ⟨empty⟩

/-- The greatest precision that may be asked for. -/
def maxPrecision : Nat := 12

/-- The first reason to refuse the arguments. Writing a configuration file is never refused. -/
def error? (arguments : Arguments) : Option ArgumentsError :=
  if arguments.initConfig then none
  else if arguments.files = [] then some .noFiles
  else if arguments.verbose && arguments.quiet then some .verboseAndQuiet
  else if arguments.precision.any (maxPrecision < ·) then some .precisionTooLarge
  else if arguments.trial.any fun trial ↦ Text.trim trial.toList = [] then some .blankTrial
  else none

/-- The events that are shown; quietness wins over verbosity, which may come from elsewhere too. -/
def level (arguments : Arguments) (verbose : Bool) : Level :=
  if arguments.quiet then .error
  else if arguments.verbose || verbose then .debug
  else .info

/-! ## In the log -/

def describeOption {α : Type} (describe : α → String) : Option α → String
  | none => "None"
  | some value => "Some(" ++ describe value ++ ")"

def describeAlignment : Alignment → String
  | .truncate => "Truncate"
  | .reject => "Reject"

/-- The arguments as the log of the program shows them. -/
def describe (arguments : Arguments) : String :=
  let fields :=
    [("files", "[" ++ ", ".intercalate (arguments.files.map Text.quote) ++ "]"),
     ("trial", describeOption Text.quote arguments.trial),
     ("config", describeOption Text.quote arguments.config),
     ("output", describeOption Text.quote arguments.output),
     ("format", arguments.format.describe),
     ("alignment", describeOption describeAlignment arguments.alignment),
     ("precision", describeOption toString arguments.precision),
     ("verbose", toString arguments.verbose),
     ("quiet", toString arguments.quiet),
     ("fail_on_error", toString arguments.failOnError),
     ("init_config", toString arguments.initConfig)]
  "Args \x7b " ++ ", ".intercalate (fields.map fun (name, value) ↦ name ++ ": " ++ value) ++ " \x7d"

end Arguments

end TrialSeries
