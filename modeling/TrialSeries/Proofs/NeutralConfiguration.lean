import TrialSeries.Proofs.CallOutcomes
import TrialSeries.Proofs.ChangedPlace
import TrialSeries.Proofs.ProgramEffects

/-!
# Configuration files that change nothing

The configuration file that is written on request holds the standard configuration, and one that
does not load is passed over. So a call works alike without the file and with either of these, as
long as it does not read the file as something else. Only if its report is to be written beyond the
file, where none can be written, the reason that it gives is another.
-/

namespace TrialSeries

/-! ## The standard file -/

theorem Configuration.toList_fileText (configuration : Configuration) :
    configuration.fileText.toList = ['\n'].intercalate
      (configuration.tables.map fun lines ↦ lines.flatMap fun line ↦ line.toList ++ ['\n']) := by
  rw [fileText, String.toList_intercalate, List.map_map]
  congr 1
  apply List.map_congr_left
  intro lines _
  simp [String.toList_join, List.flatMap_map]

theorem Configuration.ofFileText?_standard :
    ofFileText? standard.fileText = some .standard := by
  -- The reader goes through characters, so the text need not be put together from its parts.
  simp only [ofFileText?, Toml.read, Toml.Document.read, toList_fileText]
  decide +kernel

namespace Program

/-- A directory is left without the configuration file, or is given one that says nothing new: the
one that a call writes on request, or one that does not load. -/
inductive IsNeutral (directory : Directory) : Directory → Prop
  | unconfigured : IsNeutral directory directory
  | initialized {clock : Clock} {words : List String} {arguments : Arguments}
      (hwords : CommandLine.read words = .ok (.run arguments))
      (hinit : arguments.initConfig = true)
      (hcode : (runIn clock directory words).1.exitCode = 0) :
      IsNeutral directory (runIn clock directory words).2
  | unloadable {content : ByteArray}
      (hcontent : ∀ text, String.fromUTF8? content = some text →
        Configuration.ofFileText? text = none) :
      IsNeutral directory (directory.withContent [Configuration.fileName] content)

/-- No path that a call reads leads to the configuration file or through it. -/
def AvoidsConfiguration (directory : Directory) (arguments : Arguments) : Prop :=
  ∀ path ∈ arguments.files ++ arguments.config.toList,
    ¬ directory.Passes path [Configuration.fileName]

instance (directory : Directory) (arguments : Arguments) :
    Decidable (AvoidsConfiguration directory arguments) :=
  inferInstanceAs (Decidable (∀ path ∈ _, _))

/-! ## Calls that differ in their log -/

/-- Two calls leave the same report, each with its own time and duration, or none. -/
inductive SameReport (clock clock' : Clock) (first second : Directory) :
    Directory → Directory → Prop
  | unwritten : SameReport clock clock' first second first second
  | written {format : ReportFormat} {options : ReportOptions} {results : List RunResult}
      {text text' : String} (place : Directory.Place)
      (htext : reportText format options (.ofRuns clock.now clock.elapsed results) = .ok text)
      (htext' : reportText format options (.ofRuns clock'.now clock'.elapsed results) = .ok text') :
      SameReport clock clock' first second (first.withFile place text)
        (second.withFile place text')

/-- A call cannot write its report, since the path for it leads beyond the configuration file. -/
structure IsUnwritable (directory : Directory) (path : String) (before : Directory)
    (call : Outcome × Directory) : Prop where
  leadsThrough : directory.LeadsThrough path [Configuration.fileName]
  exitCode_eq : call.1.exitCode = 1
  complaints_eq : ∃ error, call.1.complaints = ["Error: " ++ writeFailure path error]
  after_eq : call.2 = before

/-- Two calls, in a first and in a second directory that come from one, differ in nothing but their
log, unless both cannot write their report beyond the configuration file. -/
structure SameCall (directory : Directory) (clock clock' : Clock) (first second : Directory)
    (call call' : Outcome × Directory) : Prop where
  exitCode_eq : call.1.exitCode = call'.1.exitCode
  output_eq : call.1.output = call'.1.output
  complaints_eq : call.1.complaints = call'.1.complaints ∨
    ∃ path, IsUnwritable directory path first call ∧ IsUnwritable directory path second call'
  report : SameReport clock clock' first second call.2 call'.2

section Neutral

variable {directory first second : Directory} {clock clock' : Clock} {arguments : Arguments}

/-- Two calls that leave their directories as they are may have the same outcome. -/
theorem SameCall.refl (outcome : Outcome) :
    SameCall directory clock clock' first second (outcome, first) (outcome, second) :=
  ⟨rfl, rfl, .inl rfl, .unwritten⟩

theorem IsUnwritable.of_comesTo {path : String} {call ending : Outcome × Directory}
    (hcall : ComesTo call ending) (h : IsUnwritable directory path first ending) :
    IsUnwritable directory path first call where
  leadsThrough := h.leadsThrough
  exitCode_eq := by rw [hcall.exitCode_eq, h.exitCode_eq]
  complaints_eq := by
    rw [hcall.complaints_eq]
    exact h.complaints_eq
  after_eq := by rw [hcall.after_eq, h.after_eq]

theorem SameCall.of_comesTo {call call' ending ending' : Outcome × Directory}
    (hcall : ComesTo call ending) (hcall' : ComesTo call' ending')
    (h : SameCall directory clock clock' first second ending ending') :
    SameCall directory clock clock' first second call call' where
  exitCode_eq := by rw [hcall.exitCode_eq, hcall'.exitCode_eq, h.exitCode_eq]
  output_eq := by rw [hcall.output_eq, hcall'.output_eq, h.output_eq]
  complaints_eq := by
    rcases h.complaints_eq with hsame | ⟨path, hfirst, hsecond⟩
    · exact .inl (by rw [hcall.complaints_eq, hcall'.complaints_eq, hsame])
    · exact .inr ⟨path, .of_comesTo hcall hfirst, .of_comesTo hcall' hsecond⟩
  report := by
    rw [hcall.after_eq, hcall'.after_eq]
    exact h.report

/-- Whether a report can be made does not depend on the clock. -/
theorem reportText_ofRuns (format : ReportFormat) (options : ReportOptions)
    (results : List RunResult) :
    (∃ error, ∀ clock : Clock,
        reportText format options (.ofRuns clock.now clock.elapsed results) = .error error) ∨
      ∀ clock : Clock,
        ∃ text, reportText format options (.ofRuns clock.now clock.elapsed results) = .ok text := by
  cases format with
  | json => exact .inr fun clock ↦ ⟨_, rfl⟩
  | markdown =>
    simp only [reportText, Report.markdown, Report.Markdown.lines, Report.ofRuns]
    cases Report.Markdown.resultsLines options.precision results with
    | error error => exact .inl ⟨error, fun _ ↦ rfl⟩
    | ok lines => exact .inr fun _ ↦ ⟨_, rfl⟩

/-! ## Neutral directories -/

theorem Ending.eq_withFile {exitCode : Nat} {after : Directory}
    (h : Ending clock directory arguments exitCode after) (hinit : arguments.initConfig = true)
    (hcode : exitCode = 0) :
    after = directory.withFile [Configuration.fileName] Configuration.standard.fileText := by
  cases h with
  | configurationWritten _ _ hplace => rw [placeOf_fileName hplace.placeOf_eq]
  | reportWritten _ hinit' => cases hinit.symm.trans hinit'
  | _ => cases hcode

theorem eq_of_fromUTF8? {text found : String} (h : String.fromUTF8? text.toUTF8 = some found) :
    found = text :=
  Option.some.inj (h.symm.trans (Directory.fromUTF8?_toByteArray text))

/-- The content of a configuration file says nothing new. -/
def SaysNothing (content : ByteArray) : Prop :=
  ∀ text, String.fromUTF8? content = some text →
    (Configuration.ofFileText? text).getD .standard = .standard

theorem saysNothing_standard : SaysNothing Configuration.standard.fileText.toUTF8 := by
  intro text htext
  rw [eq_of_fromUTF8? htext, Configuration.ofFileText?_standard, Option.getD_some]

/-- Neutral directories differ in the configuration file alone. -/
theorem IsNeutral.eq_or_eq_withContent (h : IsNeutral directory first) :
    first = directory ∨ ∃ content, SaysNothing content ∧
      first = directory.withContent [Configuration.fileName] content := by
  cases h with
  | unconfigured => exact .inl rfl
  | @initialized clock words arguments hwords hinit hcode =>
    have hending : Ending clock directory arguments _ (runIn clock directory words).2 :=
      ending_runIn hwords rfl
    exact .inr ⟨_, saysNothing_standard, hending.eq_withFile hinit hcode⟩
  | unloadable hcontent =>
    exact .inr ⟨_, fun text htext ↦ by rw [hcontent text htext, Option.getD_none], rfl⟩

section Absent

variable (habsent : directory.entryAt [Configuration.fileName] = .absent)

include habsent

theorem IsNeutral.agreeExceptAt (h : IsNeutral directory first) :
    Directory.AgreeExceptAt [Configuration.fileName] directory first := by
  have hbase : Directory.Place.isBase [Configuration.fileName] = false := by decide
  have hne : directory.entryAt [Configuration.fileName] ≠ .folder := by
    rw [habsent]
    nofun
  obtain rfl | ⟨content, -, rfl⟩ := h.eq_or_eq_withContent
  · exact .refl hbase hne
  · exact Directory.agreeExceptAt_withContent (.singleton (by decide)) hbase hne content

/-- In a neutral directory the file that is read if none is chosen gives the standard
configuration, or none. -/
theorem IsNeutral.ofFile_getD (h : IsNeutral directory first) :
    (Configuration.ofFile Configuration.fileName
      (first.read Configuration.fileName)).toOption.getD .standard = .standard := by
  cases hread : first.read Configuration.fileName with
  | error error => rfl
  | ok text =>
    obtain ⟨place, content, hplace, hentry, htext⟩ := Directory.file_of_read hread
    rw [placeOf_fileName hplace] at hentry
    have hnothing : (Configuration.ofFileText? text).getD .standard = .standard := by
      obtain rfl | ⟨content', hnothing, rfl⟩ := h.eq_or_eq_withContent
      · cases habsent.symm.trans hentry
      · rw [Directory.entryAt_withContent_self] at hentry
        cases hentry
        exact hnothing text htext
    simp only [Configuration.ofFile]
    cases hheld : Configuration.ofFileText? text with
    | none => rfl
    | some configuration =>
      rw [hheld] at hnothing
      exact hnothing

theorem IsNeutral.read_eq (h : IsNeutral directory first)
    (havoids : AvoidsConfiguration directory arguments) {path : String}
    (hpath : path ∈ arguments.files ++ arguments.config.toList) :
    first.read path = directory.read path :=
  ((h.agreeExceptAt habsent).read_eq (havoids path hpath)).symm

theorem IsNeutral.configurationIn_eq (h : IsNeutral directory first)
    (havoids : AvoidsConfiguration directory arguments) :
    configurationIn first arguments = configurationIn directory arguments := by
  simp only [configurationIn, h.ofFile_getD habsent, IsNeutral.unconfigured.ofFile_getD habsent]
  cases hconfig : arguments.config with
  | none => rfl
  | some path =>
    have hpath : path ∈ arguments.files ++ arguments.config.toList := by simp [hconfig]
    simp only [h.read_eq habsent havoids hpath]

theorem IsNeutral.resultsIn_eq (h : IsNeutral directory first)
    (havoids : AvoidsConfiguration directory arguments) (configuration : Configuration) :
    resultsIn first arguments configuration = resultsIn directory arguments configuration := by
  apply List.map_congr_left
  intro path hpath
  rw [h.read_eq habsent havoids (List.mem_append_left _ hpath)]

/-! ## Neutral calls -/

/-- The report is written in both directories or in neither, since the output path leads to the same
places. -/
theorem sameCall_delivered (hfirst : IsNeutral directory first)
    (hsecond : IsNeutral directory second) (havoids : AvoidsConfiguration directory arguments)
    (configuration : Configuration) :
    SameCall directory clock clock' first second
      (delivered clock first arguments configuration)
      (delivered clock' second arguments configuration) := by
  have hagree := hfirst.agreeExceptAt habsent
  have hbetween := hagree.symm.trans (hsecond.agreeExceptAt habsent)
  simp only [delivered, reportIn, hfirst.resultsIn_eq habsent havoids,
    hsecond.resultsIn_eq habsent havoids]
  rcases reportText_ofRuns arguments.format configuration.report
    (resultsIn directory arguments configuration) with ⟨error, herror⟩ | hrendered
  · simp only [herror]
    exact .refl _
  · obtain ⟨text, htext⟩ := hrendered clock
    obtain ⟨text', htext'⟩ := hrendered clock'
    simp only [htext, htext']
    rcases first.leadsToFile_or_refuses (configuration.outputPath arguments.format) with
      ⟨place, hplace⟩ | hrefuses
    · rw [hplace.write_eq, (hbetween.leadsToFile hplace).write_eq]
      exact ⟨rfl, rfl, .inl rfl, .written place htext htext'⟩
    · obtain ⟨error, herror⟩ := hrefuses
      obtain ⟨error', herror'⟩ := hbetween.refuses ⟨error, herror⟩
      rw [herror, herror']
      by_cases hthrough : first.LeadsThrough (configuration.outputPath arguments.format)
          [Configuration.fileName]
      · have hunwritable (before : Directory) (error : FileError) :
            IsUnwritable directory (configuration.outputPath arguments.format) before
              (.failed (writeFailure (configuration.outputPath arguments.format) error), before) :=
          ⟨hagree.symm.leadsThrough hthrough, rfl, ⟨error, rfl⟩, rfl⟩
        exact ⟨rfl, rfl, .inr ⟨_, hunwritable first error, hunwritable second error'⟩, .unwritten⟩
      · have hsame := hbetween.write_eq_error hthrough (herror text')
        cases hsame.symm.trans (herror' text')
        exact .refl _

theorem sameCall_concluded (hfirst : IsNeutral directory first)
    (hsecond : IsNeutral directory second) (havoids : AvoidsConfiguration directory arguments) :
    SameCall directory clock clock' first second (concluded clock first arguments)
      (concluded clock' second arguments) := by
  rw [concluded, concluded, hfirst.configurationIn_eq habsent havoids,
    hsecond.configurationIn_eq habsent havoids]
  cases configurationIn directory arguments with
  | error error => exact .refl _
  | ok configuration => exact sameCall_delivered habsent hfirst hsecond havoids configuration

end Absent

end Neutral

/-- In a directory without the configuration file, in one in which it has been written on request
and in one with a file that does not load, a call that does not ask for the file and does not read
it otherwise has the same exit code, the same output and the same report, except for its clock. Only
its log differs, and the reason why it cannot write a report beyond the file. -/
theorem sameCall_of_isNeutral {directory first second : Directory} {words : List String}
    (habsent : directory.entryAt [Configuration.fileName] = .absent)
    (hwords : ∀ arguments, CommandLine.read words = .ok (.run arguments) →
      arguments.initConfig = false ∧ AvoidsConfiguration directory arguments)
    (hfirst : IsNeutral directory first) (hsecond : IsNeutral directory second)
    (clock clock' : Clock) :
    SameCall directory clock clock' first second (runIn clock first words)
      (runIn clock' second words) := by
  cases hread : CommandLine.read words with
  | error error =>
    simp only [runIn, run, hread]
    exact .refl _
  | ok request =>
    cases request with
    | help =>
      simp only [runIn, run, hread]
      exact .refl _
    | version =>
      simp only [runIn, run, hread]
      exact .refl _
    | run arguments =>
      obtain ⟨hinit, havoids⟩ := hwords arguments hread
      cases hvalid : arguments.error? with
      | some error =>
        simp only [runIn, run, hread, hvalid]
        exact .refl _
      | none =>
        exact .of_comesTo (comesTo_concluded hread hvalid hinit)
          (comesTo_concluded hread hvalid hinit) (sameCall_concluded habsent hfirst hsecond havoids)

/-! ### A study without settings -/

/-- The run file of a study. -/
def bareStudy : Directory :=
  .ofFiles [("PART_DISC/hopCount.csv", "settings: 3_5\nm: 1,2\n".toUTF8)]

/-- The study with a configuration file that is written on request. -/
def initializedStudy : Directory := (runIn default bareStudy ["--init-config"]).2

/-- A number of places that is none. -/
def brokenSettings : String := "[report]\nprecision = \"two\"\n"

def brokenStudy : Directory :=
  bareStudy.withContent [Configuration.fileName] brokenSettings.toUTF8

/-- The clock a second later. -/
def laterClock : Clock := ⟨default, ⟨0x3ff0000000000000⟩⟩

theorem isNeutral_initializedStudy : IsNeutral bareStudy initializedStudy := by
  have hread : CommandLine.read ["--init-config"] =
      .ok (.run { Arguments.empty with initConfig := true }) := by decide +kernel
  have hcode : (runIn default bareStudy ["--init-config"]).1.exitCode = 0 := by decide +kernel
  exact .initialized hread rfl hcode

theorem isNeutral_brokenStudy : IsNeutral bareStudy brokenStudy := by
  have hbroken : Configuration.ofFileText? brokenSettings = none := by decide +kernel
  apply IsNeutral.unloadable
  intro text htext
  rw [eq_of_fromUTF8? htext, hbroken]

/-- One of the run files is lost, and the other is reported. -/
theorem sameCall_of_isNeutral_bareStudy :
    bareStudy.entryAt [Configuration.fileName] = .absent ∧
    CommandLine.read studyWords = .ok (.run studyArguments) ∧
    studyArguments.initConfig = false ∧ AvoidsConfiguration bareStudy studyArguments ∧
    SameCall bareStudy default laterClock bareStudy initializedStudy
      (runIn default bareStudy studyWords) (runIn laterClock initializedStudy studyWords) ∧
    SameCall bareStudy default laterClock bareStudy brokenStudy
      (runIn default bareStudy studyWords) (runIn laterClock brokenStudy studyWords) := by
  have habsent : bareStudy.entryAt [Configuration.fileName] = .absent := rfl
  have hread : CommandLine.read studyWords = .ok (.run studyArguments) := by decide +kernel
  have havoids : AvoidsConfiguration bareStudy studyArguments := by decide +kernel
  have hwords : ∀ arguments, CommandLine.read studyWords = .ok (.run arguments) →
      arguments.initConfig = false ∧ AvoidsConfiguration bareStudy arguments := by
    intro arguments harguments
    cases hread.symm.trans harguments
    exact ⟨rfl, havoids⟩
  have hsame {second : Directory} (hsecond : IsNeutral bareStudy second) :
      SameCall bareStudy default laterClock bareStudy second
        (runIn default bareStudy studyWords) (runIn laterClock second studyWords) :=
    sameCall_of_isNeutral habsent hwords .unconfigured hsecond default laterClock
  exact ⟨habsent, hread, rfl, havoids, hsame isNeutral_initializedStudy,
    hsame isNeutral_brokenStudy⟩

/-- The words of a call that is to write its report beyond the configuration file. -/
def beyondWords : List String := ["-o", ".trialstats.toml/r.md", "PART_DISC/hopCount.csv"]

def beyondArguments : Arguments :=
  { Arguments.empty with
    output := some ".trialstats.toml/r.md", files := ["PART_DISC/hopCount.csv"] }

/-- More than the log differs: the file is a reason of its own not to write a report. -/
theorem complaints_beyondWords :
    bareStudy.entryAt [Configuration.fileName] = .absent ∧
    CommandLine.read beyondWords = .ok (.run beyondArguments) ∧
    beyondArguments.error? = none ∧ beyondArguments.initConfig = false ∧
    AvoidsConfiguration bareStudy beyondArguments ∧ IsNeutral bareStudy initializedStudy ∧
    (runIn default bareStudy beyondWords).1.complaints =
      ["Error: Failed to write report to .trialstats.toml/r.md: " ++
        "No such file or directory (os error 2)"] ∧
    (runIn default initializedStudy beyondWords).1.complaints =
      ["Error: Failed to write report to .trialstats.toml/r.md: " ++
        "Not a directory (os error 20)"] := by
  have habsent : bareStudy.entryAt [Configuration.fileName] = .absent := rfl
  have hread : CommandLine.read beyondWords = .ok (.run beyondArguments) := by decide +kernel
  have havoids : AvoidsConfiguration bareStudy beyondArguments := by decide +kernel
  refine ⟨habsent, hread, rfl, rfl, havoids, isNeutral_initializedStudy, ?_, ?_⟩
  · decide +kernel
  · rw [(comesTo_concluded hread rfl rfl).complaints_eq, concluded,
      isNeutral_initializedStudy.configurationIn_eq habsent havoids]
    decide +kernel

end Program

end TrialSeries
