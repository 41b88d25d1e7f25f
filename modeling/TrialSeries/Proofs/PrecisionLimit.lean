import TrialSeries.Proofs.CallOutcomes
import TrialSeries.Proofs.ConfigurationEncoding
import TrialSeries.Proofs.TomlIntegers

/-!
# The limit of the precision

The precision of a report comes from the arguments, from a configuration file or from the standard
configuration. The arguments of a call are refused if they ask for more places than the limit
allows, and the standard configuration stays below it. A configuration file can say any number that
TOML has, so that it alone can take a report beyond the limit.
-/

namespace TrialSeries

namespace Configuration

open Toml

/-! ## A file that sets the precision -/

/-- A configuration file that says nothing but the precision of the report. -/
def precisionText (precision : Nat) : String :=
  "[report]\nprecision = " ++ toString precision ++ "\n"

section Reading

variable {n : Nat}

theorem toList_precisionText (n : Nat) :
    (precisionText n).toList = "[report]\n".toList ++ ("precision = ".toList ++ numeralLine n) :=
  calc (precisionText n).toList
    _ = "[report]\nprecision = ".toList ++ (toString n).toList ++ "\n".toList :=
      String.toList_append.trans (congrArg (· ++ "\n".toList) String.toList_append)
    _ = "[report]\nprecision = ".toList ++ Nat.toDigits 10 n ++ "\n".toList :=
      congrArg ("[report]\nprecision = ".toList ++ · ++ "\n".toList) Nat.toList_repr
    _ = "[report]\n".toList ++ ("precision = ".toList ++ numeralLine n) := by
      rw [List.append_assoc]
      rfl

theorem statement?_precision (h : (n : Int) ≤ Int64.maxValue.toInt) :
    statement? ("precision = ".toList ++ numeralLine n) =
      some (.pair ⟨[], "precision"⟩ (.integer n), ['\n']) := by
  have hpath : keyPath? ("precision = ".toList ++ numeralLine n) =
      some (⟨[], "precision"⟩, '=' :: ' ' :: numeralLine n) := rfl
  have hspaces : skipSpaces (' ' :: numeralLine n) = numeralLine n := skipSpaces_numeralLine n
  have hpair : pair? ("precision = ".toList ++ numeralLine n) =
      some ((⟨[], "precision"⟩, .integer n), ['\n']) := by
    rw [pair?, hpath]
    simp [after?, hspaces, value?_numeralLine h]
  have hne (tail : List Char) : "precision = ".toList ++ numeralLine n ≠ '[' :: tail := by
    intro heq
    exact absurd (List.cons.inj heq).1 (by decide)
  rw [statement?, hpair]
  · rfl
  · intro rest heq
    exact hne _ heq
  · intro rest heq
    exact hne _ heq

/-- A line that says something, with what is below it. -/
theorem ofLines?_of_statement {fuel : Nat} {chars rest next : List Char} {statement : Statement}
    {below : Document} (hspaces : skipSpaces chars = chars) (hafter : afterLine? chars = none)
    (hstatement : statement? chars = some (statement, rest)) (hrest : afterLine? rest = some next)
    (hbelow : Document.ofLines? fuel next = some below) :
    Document.ofLines? (fuel + 1) chars = some (below.prepend statement) := by
  cases chars with
  | nil => cases hafter
  | cons char chars =>
    rw [Document.ofLines?, hspaces]
    simp only [hafter, hstatement, hrest, hbelow, Option.bind_eq_bind, Option.bind_some]

theorem documentRead_precisionText (h : (n : Int) ≤ Int64.maxValue.toInt) :
    Document.read (precisionText n) =
      some ⟨[], [⟨⟨[], "report"⟩, false, [(⟨[], "precision"⟩, .integer n)]⟩]⟩ := by
  have hlength := congrArg List.length (toList_precisionText n)
  rw [List.length_append] at hlength
  have hheader : "[report]\n".toList.length = 9 := rfl
  obtain ⟨fuel, hfuel⟩ : ∃ fuel, (precisionText n).toList.length + 1 = fuel + 3 :=
    Nat.exists_eq_add_of_le' (by omega)
  have hend : Document.ofLines? (fuel + 1) [] = some ⟨[], []⟩ := rfl
  have hpair : Document.ofLines? (fuel + 2) ("precision = ".toList ++ numeralLine n) =
      some ⟨[(⟨[], "precision"⟩, .integer n)], []⟩ :=
    ofLines?_of_statement rfl rfl (statement?_precision h) rfl hend
  -- The numeral must not be looked at, so the rest of the text is taken apart from it.
  have hmark (rest : List Char) : Document.dropByteOrderMark ("[report]\n".toList ++ rest) =
      "[report]\n".toList ++ rest := rfl
  have hspaces (rest : List Char) : skipSpaces ("[report]\n".toList ++ rest) =
      "[report]\n".toList ++ rest := rfl
  have hafter (rest : List Char) : afterLine? ("[report]\n".toList ++ rest) = none := rfl
  have hstatement (rest : List Char) : statement? ("[report]\n".toList ++ rest) =
      some (.header ⟨[], "report"⟩, '\n' :: rest) := rfl
  have hnext (rest : List Char) : afterLine? ('\n' :: rest) = some rest := rfl
  rw [Document.read, toList_precisionText, hmark, ← toList_precisionText, hfuel,
    toList_precisionText]
  exact ofLines?_of_statement (hspaces _) (hafter _) (hstatement _) (hnext _) hpair

theorem table?_precision (data : Data) :
    (Document.mk [] [⟨⟨[], "report"⟩, false, [(⟨[], "precision"⟩, data)]⟩]).table? =
      some [("report", .table .defined [("precision", .value data)])] := by
  simp [Document.table?, Table.addSection, Table.alterAt, Table.define, Table.addPairs,
    Table.addPair, Table.addValue, Table.set]

theorem orDefault_omitted {α : Type} (read : Data → Option α) (default : α) :
    Data.Slot.omitted.orDefault read default = some default :=
  rfl

theorem ofData?_precision {data : Data} (h : Data.natural? data = some n) :
    ofData? .toml (.record [("report", .record [("precision", data)])]) =
      some { standard with report := { ReportOptions.standard with precision := n } } := by
  have hreport : ReportOptions.ofData? .toml (.record [("precision", data)]) =
      some { ReportOptions.standard with precision := n } := by
    simp [ReportOptions.ofData?, slots?_record, Data.slots?, Data.valuesOf, Data.slotOfValues,
      orDefault_given, orDefault_omitted, h]
  simp [ofData?, slots?_record, Data.slots?, Data.valuesOf, Data.slotOfValues, orDefault_given,
    orDefault_omitted, hreport, standard]

/-- A file may set the precision to any number that TOML has. -/
theorem ofFileText?_precisionText (h : (n : Int) ≤ Int64.maxValue.toInt) :
    ofFileText? (precisionText n) =
      some { standard with report := { ReportOptions.standard with precision := n } } := by
  have hsize : n < UInt64.size := by
    have hmax : Int64.maxValue.toInt < UInt64.size := by decide +kernel
    omega
  have hdata : Toml.read (precisionText n) =
      some (.record [("report", .record [("precision", .integer n)])]) := by
    simp only [Toml.read, documentRead_precisionText h, Option.bind_eq_bind, Option.bind_some,
      table?_precision]
    rfl
  rw [ofFileText?, hdata, Option.bind_eq_bind, Option.bind_some,
    ofData?_precision (Data.natural?_integer hsize)]

end Reading

end Configuration

namespace Program

/-! ## The sources of the precision -/

/-- A call makes a Markdown report under a configuration. -/
structure MakesMarkdown (directory : Directory) (words : List String) (arguments : Arguments)
    (configuration : Configuration) : Prop where
  read_eq : CommandLine.read words = .ok (.run arguments)
  accepted : arguments.error? = none
  aggregates : arguments.initConfig = false
  isMarkdown : arguments.format = .markdown
  loaded : configurationIn directory arguments = .ok configuration

/-- What the precision of a report may come from. -/
inductive PrecisionSource where
  | arguments
  | chosenFile (path : String)
  | defaultFile
  | standard

def PrecisionSource.isFile : PrecisionSource → Bool
  | arguments => false
  | chosenFile _ => true
  | defaultFile => true
  | standard => false

/-- A source counts for a call, and this is the precision that it sets. -/
inductive SetsPrecision (directory : Directory) (arguments : Arguments) :
    PrecisionSource → Nat → Prop
  | arguments {precision : Nat} (hasked : arguments.precision = some precision) :
    SetsPrecision directory arguments .arguments precision
  | chosenFile {path : String} {file : Configuration} (hasked : arguments.precision = none)
      (hchosen : arguments.config = some path)
      (hheld : Configuration.ofFile path (directory.read path) = .ok file) :
    SetsPrecision directory arguments (.chosenFile path) file.report.precision
  | defaultFile {file : Configuration} (hasked : arguments.precision = none)
      (hchosen : arguments.config = none)
      (hheld : Configuration.ofFile Configuration.fileName
        (directory.read Configuration.fileName) = .ok file) :
    SetsPrecision directory arguments .defaultFile file.report.precision
  | standard {error : ConfigurationError} (hasked : arguments.precision = none)
      (hchosen : arguments.config = none)
      (hheld : Configuration.ofFile Configuration.fileName
        (directory.read Configuration.fileName) = .error error) :
    SetsPrecision directory arguments .standard ReportOptions.standard.precision

/-- The configuration that a call finds before its arguments are put over it. -/
def foundIn (directory : Directory) (arguments : Arguments) :
    Except ConfigurationError Configuration :=
  let held (path : String) := Configuration.ofFile path (directory.read path)
  match arguments.config with
  | some path => held path
  | none => .ok ((held Configuration.fileName).toOption.getD .standard)

section Calls

variable {clock : Clock} {directory : Directory} {words : List String} {arguments : Arguments}
  {configuration file : Configuration} {source : PrecisionSource} {precision : Nat}

theorem configurationIn_eq_ok_iff :
    configurationIn directory arguments = .ok configuration ↔
      ∃ file, foundIn directory arguments = .ok file ∧
        file.withArguments arguments = configuration := by
  have hmap : configurationIn directory arguments =
      (foundIn directory arguments).map (·.withArguments arguments) := by
    unfold configurationIn foundIn
    cases arguments.config <;> rfl
  rw [hmap, map_eq_ok_iff]

theorem precision_withArguments (configuration : Configuration) (arguments : Arguments) :
    (configuration.withArguments arguments).report.precision =
      arguments.precision.getD configuration.report.precision :=
  rfl

theorem exists_setsPrecision_of_foundIn (hasked : arguments.precision = none)
    (h : foundIn directory arguments = .ok file) :
    ∃ source, SetsPrecision directory arguments source file.report.precision := by
  unfold foundIn at h
  cases hchosen : arguments.config with
  | some path =>
    simp only [hchosen] at h
    exact ⟨.chosenFile path, .chosenFile hasked hchosen h⟩
  | none =>
    simp only [hchosen] at h
    cases hheld : Configuration.ofFile Configuration.fileName
        (directory.read Configuration.fileName) with
    | ok held =>
      rw [hheld] at h
      cases h
      exact ⟨.defaultFile, .defaultFile hasked hchosen hheld⟩
    | error error =>
      rw [hheld] at h
      cases h
      exact ⟨.standard, .standard hasked hchosen hheld⟩

/-- Some source sets the precision that a call works with. -/
theorem exists_setsPrecision (h : configurationIn directory arguments = .ok configuration) :
    ∃ source, SetsPrecision directory arguments source configuration.report.precision := by
  obtain ⟨file, hfound, rfl⟩ := configurationIn_eq_ok_iff.1 h
  rw [precision_withArguments]
  cases hasked : arguments.precision with
  | some precision => exact ⟨.arguments, .arguments hasked⟩
  | none => exact exists_setsPrecision_of_foundIn hasked hfound

theorem precision_le_of_accepted (haccepted : arguments.error? = none)
    (haggregates : arguments.initConfig = false) (hasked : arguments.precision = some precision) :
    precision ≤ Arguments.maxPrecision := by
  by_contra hbeyond
  have hany : arguments.precision.any (Arguments.maxPrecision < ·) = true := by
    simpa [hasked] using hbeyond
  rw [Arguments.error?, haggregates, hany, if_neg Bool.false_ne_true, if_pos rfl] at haccepted
  split_ifs at haccepted

namespace SetsPrecision

/-- A call works with what a source that counts for it sets. -/
theorem precision_eq (h : SetsPrecision directory arguments source precision)
    (hloaded : configurationIn directory arguments = .ok configuration) :
    configuration.report.precision = precision := by
  obtain ⟨file, hfound, rfl⟩ := configurationIn_eq_ok_iff.1 hloaded
  rw [precision_withArguments]
  cases h with
  | arguments hasked => rw [hasked, Option.getD_some]
  | chosenFile hasked hchosen hheld =>
    simp only [foundIn, hchosen, hheld] at hfound
    cases hfound
    rw [hasked, Option.getD_none]
  | defaultFile hasked hchosen hheld =>
    simp only [foundIn, hchosen, hheld] at hfound
    cases hfound
    rw [hasked, Option.getD_none]
    rfl
  | standard hasked hchosen hheld =>
    simp only [foundIn, hchosen, hheld] at hfound
    cases hfound
    rw [hasked, Option.getD_none]
    rfl

/-- The arguments are checked and the standard configuration needs no check. -/
theorem le_maxPrecision (h : SetsPrecision directory arguments source precision)
    (haccepted : arguments.error? = none) (haggregates : arguments.initConfig = false)
    (hfile : source.isFile = false) : precision ≤ Arguments.maxPrecision := by
  cases h with
  | arguments hasked => exact precision_le_of_accepted haccepted haggregates hasked
  | chosenFile => cases hfile
  | defaultFile => cases hfile
  | standard => decide

end SetsPrecision

theorem MakesMarkdown.comesTo (h : MakesMarkdown directory words arguments configuration) :
    ComesTo (runIn clock directory words) (delivered clock directory arguments configuration) := by
  have hconcluded : concluded clock directory arguments =
      delivered clock directory arguments configuration := by
    rw [concluded, h.loaded]
  rw [← hconcluded]
  exact comesTo_concluded h.read_eq h.accepted h.aggregates

/-- A precision is within the limit if and only if no file that sets it goes beyond the limit. -/
theorem MakesMarkdown.precision_le_iff (h : MakesMarkdown directory words arguments configuration) :
    configuration.report.precision ≤ Arguments.maxPrecision ↔
      ∀ source precision, SetsPrecision directory arguments source precision →
        source.isFile = true → precision ≤ Arguments.maxPrecision := by
  constructor
  · intro hlimit source precision hsets _
    rw [← hsets.precision_eq h.loaded]
    exact hlimit
  · intro hfiles
    obtain ⟨source, hsets⟩ := exists_setsPrecision h.loaded
    cases hfile : source.isFile with
    | false => exact hsets.le_maxPrecision h.accepted h.aggregates hfile
    | true => exact hfiles source _ hsets hfile

/-- The file that a call reads sets the precision to what it says. -/
theorem exists_setsPrecision_of_precisionText (hfits : (precision : Int) ≤ Int64.maxValue.toInt)
    (hasked : arguments.precision = none)
    (hread : directory.read (arguments.config.getD Configuration.fileName) =
      .ok (Configuration.precisionText precision)) :
    ∃ source, SetsPrecision directory arguments source precision := by
  have hheld : Configuration.ofFile (arguments.config.getD Configuration.fileName)
      (directory.read (arguments.config.getD Configuration.fileName)) =
        .ok { Configuration.standard with
          report := { ReportOptions.standard with precision := precision } } := by
    rw [hread, Configuration.ofFile, Configuration.ofFileText?_precisionText hfits]
  cases hchosen : arguments.config with
  | some path =>
    rw [hchosen, Option.getD_some] at hheld
    exact ⟨_, .chosenFile hasked hchosen hheld⟩
  | none =>
    rw [hchosen, Option.getD_none] at hheld
    exact ⟨_, .defaultFile hasked hchosen hheld⟩

/-- A call makes its Markdown report with the precision that the source which counts for it sets.
That is within the limit unless the source is a file that goes beyond it, and a file may set any
number that TOML has. -/
theorem precision_of_makesMarkdown (h : MakesMarkdown directory words arguments configuration) :
    ComesTo (runIn clock directory words) (delivered clock directory arguments configuration) ∧
    (∃ source, SetsPrecision directory arguments source configuration.report.precision) ∧
    (∀ source precision, SetsPrecision directory arguments source precision →
      configuration.report.precision = precision) ∧
    (configuration.report.precision ≤ Arguments.maxPrecision ↔
      ∀ source precision, SetsPrecision directory arguments source precision →
        source.isFile = true → precision ≤ Arguments.maxPrecision) ∧
    ∀ precision : Nat, (precision : Int) ≤ Int64.maxValue.toInt → arguments.precision = none →
      directory.read (arguments.config.getD Configuration.fileName) =
          .ok (Configuration.precisionText precision) →
        configuration.report.precision = precision := by
  refine ⟨h.comesTo, exists_setsPrecision h.loaded, ?_, h.precision_le_iff, ?_⟩
  · intro source precision hsets
    exact hsets.precision_eq h.loaded
  · intro precision hfits hasked hread
    obtain ⟨source, hsets⟩ := exists_setsPrecision_of_precisionText hfits hasked hread
    exact hsets.precision_eq h.loaded

end Calls

/-! ### A study with very fine numbers -/

/-- A configuration file that asks for one place more than the limit allows, and a run file. -/
def fineDirectory : Directory :=
  .ofFiles [(Configuration.fileName, (Configuration.precisionText 13).toUTF8),
    ("PART_DISC/hopCount.csv", "settings: 3_5\nm: 1,2\n".toUTF8)]

def fineWords : List String := ["PART_DISC/hopCount.csv"]

def fineArguments : Arguments := { Arguments.empty with files := fineWords }

def fineConfiguration : Configuration :=
  { Configuration.standard with report := { ReportOptions.standard with precision := 13 } }

theorem makesMarkdown_fineDirectory :
    MakesMarkdown fineDirectory fineWords fineArguments fineConfiguration where
  read_eq := by decide +kernel
  accepted := by decide +kernel
  aggregates := rfl
  isMarkdown := rfl
  loaded := by decide +kernel

theorem precision_of_makesMarkdown_fineDirectory :
    MakesMarkdown fineDirectory fineWords fineArguments fineConfiguration ∧
    ComesTo (runIn default fineDirectory fineWords)
      (delivered default fineDirectory fineArguments fineConfiguration) ∧
    fineDirectory.read Configuration.fileName = .ok (Configuration.precisionText 13) ∧
    fineConfiguration.report.precision = 13 := by
  have hread : fineDirectory.read Configuration.fileName =
      .ok (Configuration.precisionText 13) := by decide +kernel
  obtain ⟨hcall, -, -, -, hfile⟩ := @precision_of_makesMarkdown default _ _ _ _
    makesMarkdown_fineDirectory
  exact ⟨makesMarkdown_fineDirectory, hcall, hread, hfile 13 (by decide) rfl hread⟩

/-- A file takes the precision of a report beyond the limit of the arguments. -/
theorem not_forall_precision_le :
    ¬ ∀ directory words arguments configuration,
      MakesMarkdown directory words arguments configuration →
        configuration.report.precision ≤ Arguments.maxPrecision := by
  intro hlimit
  have hbeyond : ¬ fineConfiguration.report.precision ≤ Arguments.maxPrecision := by decide
  exact hbeyond (hlimit _ _ _ _ makesMarkdown_fineDirectory)

end Program

end TrialSeries
