import TrialSeries.Arguments
import TrialSeries.Text.Split

/-!
# Command lines

A command line is read word by word. An option takes one value, which is attached to it or is the
next word; a switch takes none. Long names stand behind two dashes, and one-letter names may stand
together behind one dash. All other words are paths of run files, as are all words after a double
dash. No option and no switch may be given twice.

The value of an option is looked at when the next option or switch is reached, or at the end, so of
two mistakes the one in a name may be reported before an earlier one in a value.
-/

namespace TrialSeries

/-- A mistake in the use of the program. -/
inductive UsageError where
  /-- There is no option or switch of the name. -/
  | unknownArgument (word : String)
  /-- An option has no value, or one that is not among those it may have. -/
  | invalidValue (name : String)
  /-- The value of an option cannot be read as a number. -/
  | unreadableValue (name value : String)
  /-- A switch has a value. -/
  | unexpectedValue (name : String)
  /-- An option or a switch is given twice. -/
  | repeatedArgument (name : String)
  | noFiles
deriving DecidableEq

/-- The message in words of its own, with which nothing is compared. -/
def UsageError.message : UsageError → String
  | unknownArgument word => "unexpected argument '" ++ word ++ "'"
  | invalidValue name => "no valid value for '" ++ name ++ "'"
  | unreadableValue name value => "invalid value '" ++ value ++ "' for '" ++ name ++ "'"
  | unexpectedValue name => "unexpected value for '" ++ name ++ "'"
  | repeatedArgument name => "'" ++ name ++ "' cannot be used multiple times"
  | noFiles => "the following required arguments were not provided: <FILE>..."

/-- What a well-formed command line asks for. -/
inductive Request where
  | help
  | version
  | run (arguments : Arguments)
deriving DecidableEq

namespace CommandLine

/-! ## Names -/

inductive ValueOption where
  | trial
  | config
  | output
  | format
  | alignment
  | precision
deriving DecidableEq

inductive Switch where
  | verbose
  | quiet
  | failOnError
  | initConfig
  | help
  | version
deriving DecidableEq

/-- What a name stands for. -/
inductive Named where
  | valued (option : ValueOption)
  | switch (switch : Switch)
deriving DecidableEq

def ValueOption.longName : ValueOption → String
  | trial => "trial"
  | config => "config"
  | output => "output"
  | format => "format"
  | alignment => "alignment"
  | precision => "precision"

def Switch.longName : Switch → String
  | verbose => "verbose"
  | quiet => "quiet"
  | failOnError => "fail-on-error"
  | initConfig => "init-config"
  | help => "help"
  | version => "version"

def valueOptions : List ValueOption := [.trial, .config, .output, .format, .alignment, .precision]

def switches : List Switch := [.verbose, .quiet, .failOnError, .initConfig, .help, .version]

def ofLongName? (name : String) : Option Named :=
  (valueOptions.find? (·.longName = name)).map .valued <|>
    (switches.find? (·.longName = name)).map .switch

def ofLetter? : Char → Option Named
  | 't' => some (.valued .trial)
  | 'c' => some (.valued .config)
  | 'o' => some (.valued .output)
  | 'v' => some (.switch .verbose)
  | 'q' => some (.switch .quiet)
  | 'h' => some (.switch .help)
  | 'V' => some (.switch .version)
  | _ => none

/-! ## Values -/

/-- A number below `2 ^ 64` in digits, before which a plus may stand. -/
def natural? (value : String) : Option Nat :=
  let digits := match value.toList with
    | '+' :: rest => rest
    | chars => chars
  let number := Nat.ofDigitChars 10 digits 0
  if digits ≠ [] ∧ digits.all Char.isDigit ∧ number < UInt64.size then some number else none

def format? (value : String) : Option ReportFormat :=
  if value = "markdown" then some .markdown
  else if value = "json" then some .json
  else none

def alignment? (value : String) : Option Alignment :=
  if value = "truncate" then some .truncate
  else if value = "reject" then some .reject
  else none

/-- A path has at least one character. -/
def path? (value : String) : Option String := if value = "" then none else some value

/-- The arguments with the value of an option. -/
def ValueOption.store (option : ValueOption) (value : String) (arguments : Arguments) :
    Except UsageError Arguments :=
  let valid {α : Type} : Option α → Except UsageError α
    | some value => .ok value
    | none => .error (.invalidValue option.longName)
  match option with
  | trial => .ok { arguments with trial := some value }
  | config => do return { arguments with config := some (← valid (path? value)) }
  | output => do return { arguments with output := some (← valid (path? value)) }
  | format => do return { arguments with format := ← valid (format? value) }
  | alignment => do return { arguments with alignment := some (← valid (alignment? value)) }
  | precision => match natural? value with
    | some number => .ok { arguments with precision := some number }
    | none => .error (.unreadableValue option.longName value)

/-- The arguments with some paths of run files. -/
def storeFiles (paths : List String) (arguments : Arguments) : Except UsageError Arguments :=
  if paths.any (· = "") then .error (.invalidValue "FILE")
  else .ok { arguments with files := arguments.files ++ paths }

/-! ## Reading words -/

/-- What has been read and not yet looked at. -/
inductive Pending where
  | files (paths : List String)
  | valued (option : ValueOption) (value : Option String)
deriving DecidableEq

/-- How far a command line has been read. -/
structure Progress where
  arguments : Arguments
  /-- The options and switches given so far. -/
  given : List Named
  pending : Pending
  /-- A double dash has been read. -/
  onlyFiles : Bool
deriving DecidableEq

namespace Progress

def start : Progress := ⟨.empty, [], .files [], false⟩

/-- The progress with a further option or switch, which may not have been given before. -/
def give (progress : Progress) (named : Named) (name : String) : Except UsageError Progress :=
  if named ∈ progress.given then .error (.repeatedArgument name)
  else .ok { progress with given := named :: progress.given }

/-- Stores an option with its value. -/
def storeValue (progress : Progress) (option : ValueOption) (value : String) :
    Except UsageError Progress := do
  let progress ← progress.give (.valued option) option.longName
  return { progress with arguments := ← option.store value progress.arguments }

/-- Looks at what is pending. -/
def settle (progress : Progress) : Except UsageError Progress :=
  let settled := { progress with pending := .files [] }
  match progress.pending with
  | .files paths => do return { settled with arguments := ← storeFiles paths settled.arguments }
  | .valued option none => .error (.invalidValue option.longName)
  | .valued option (some value) => settled.storeValue option value

/-- Takes a path of a run file. -/
def takeFile (progress : Progress) (path : String) : Except UsageError Progress :=
  match progress.pending with
  | .files paths => .ok { progress with pending := .files (paths ++ [path]) }
  | .valued _ _ => do return { ← progress.settle with pending := .files [path] }

/-- Takes an option, with its value if that is attached. -/
def takeOption (progress : Progress) (option : ValueOption) (value : Option String) :
    Except UsageError Progress := do
  let settled ← progress.settle
  match value with
  | some value => settled.storeValue option value
  | none => return { settled with pending := .valued option none }

end Progress

/-- What a word leads to: further progress, or a request that ends the reading. -/
inductive Reached where
  | progress (progress : Progress)
  | help
  | version

/-- Takes a switch; a request for help or the version ends the reading. -/
def takeSwitch (progress : Progress) (switch : Switch) : Except UsageError Reached := do
  let settled ← progress.settle
  let set (change : Arguments → Arguments) : Except UsageError Reached := do
    let given ← settled.give (.switch switch) switch.longName
    return .progress { given with arguments := change given.arguments }
  match switch with
  | .help => return .help
  | .version => return .version
  | .verbose => set ({ · with verbose := true })
  | .quiet => set ({ · with quiet := true })
  | .failOnError => set ({ · with failOnError := true })
  | .initConfig => set ({ · with initConfig := true })

/-- Takes a long name, with a value if one is attached. -/
def takeLong (progress : Progress) (name : String) (value : Option String) :
    Except UsageError Reached :=
  match ofLongName? name, value with
  | none, _ => .error (.unknownArgument ("--" ++ name))
  | some (.valued option), value => do return .progress (← progress.takeOption option value)
  | some (.switch switch), none => takeSwitch progress switch
  | some (.switch switch), some _ => .error (.unexpectedValue switch.longName)

/-- The value that is attached to a letter, behind an equals sign or not. -/
def attachedValue : List Char → Option String
  | [] => none
  | '=' :: value => some (String.ofList value)
  | value => some (String.ofList value)

/-- Takes one-letter names; an option has the rest of them for its value. -/
def takeLetters (progress : Progress) : List Char → Except UsageError Reached
  | [] => .ok (.progress progress)
  | letter :: rest =>
    match ofLetter? letter with
    | none => .error (.unknownArgument ("-" ++ String.singleton letter))
    | some (.valued option) => do
      return .progress (← progress.takeOption option (attachedValue rest))
    | some (.switch switch) => do
      match ← takeSwitch progress switch with
      | .progress progress => takeLetters progress rest
      | reached => return reached

/-- Takes a word that no dash makes a name. -/
def takePlain (progress : Progress) (word : String) : Except UsageError Progress :=
  match progress.pending with
  | .valued option none => .ok { progress with pending := .valued option (some word) }
  | _ => progress.takeFile word

/-- Takes one word. -/
def takeWord (progress : Progress) (word : String) : Except UsageError Reached :=
  if progress.onlyFiles then do return .progress (← progress.takeFile word)
  else match word.toList with
    | ['-', '-'] => .ok (.progress { progress with onlyFiles := true })
    | '-' :: '-' :: rest =>
      match Text.cutAt '=' rest with
      | some (name, value) =>
        takeLong progress (String.ofList name) (some (String.ofList value))
      | none => takeLong progress (String.ofList rest) none
    | '-' :: letter :: letters => takeLetters progress (letter :: letters)
    | _ => do return .progress (← takePlain progress word)

/-- Looks at what is left at the end. Without files there has to be another task. -/
def finish (progress : Progress) : Except UsageError Arguments := do
  let arguments := (← progress.settle).arguments
  if arguments.files = [] ∧ !arguments.initConfig then .error .noFiles
  else return arguments

/-- Reads words from the given progress on. -/
def readFrom (progress : Progress) : List String → Except UsageError Request
  | [] => do return .run (← finish progress)
  | word :: words => do
    match ← takeWord progress word with
    | .progress progress => readFrom progress words
    | .help => return .help
    | .version => return .version

/-- The request of a command line. -/
def read (words : List String) : Except UsageError Request := readFrom .start words

end CommandLine

end TrialSeries
