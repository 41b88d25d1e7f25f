import TrialSeries.Proofs.CallEndings
import TrialSeries.Proofs.EntryLookup

/-!
# What a call changes

A call changes one file or none, and its exit code says how it went: one if nothing could be done,
in which case nothing is changed, and otherwise zero or two, with the report written whether the
runs succeeded or not. A configuration file that is there is never overwritten by the request for
one, wherever in a sequence of calls that comes. That exit code one leaves everything as it was rests
on `Directory.write`, which fails for a path alone: a disk that runs full in the middle of a report is
not considered.
-/

namespace TrialSeries.Program

/-! ## Effects -/

/-- A call may change the content of the file under a key. -/
inductive MayChange (directory : Directory) (arguments : Arguments) :
    String → Prop
  | configuration (hinit : arguments.initConfig = true)
      (habsent : directory.isPresent Configuration.fileName = false) :
    MayChange directory arguments Configuration.fileName
  | report {configuration : Configuration} {place : Directory.Place}
      (hinit : arguments.initConfig = false)
      (hloaded : configurationIn directory arguments = .ok configuration)
      (hplace : directory.placeOf (configuration.outputPath arguments.format) = .ok place) :
    MayChange directory arguments place.key

/-- A call does not get as far as to write a file. The results of the runs play no part in this. -/
inductive IsRefused (directory : Directory) (arguments : Arguments) : Prop
  | arguments {error : ArgumentsError} (hrefused : arguments.error? = some error)
  | configurationPresent (hinit : arguments.initConfig = true)
      (hpresent : directory.isPresent Configuration.fileName = true)
  | configurationUnwritable (hinit : arguments.initConfig = true)
      (hrefuses : directory.Refuses Configuration.fileName)
  | chosenConfiguration {path : String} {error : ConfigurationError}
      (hinit : arguments.initConfig = false) (hchosen : arguments.config = some path)
      (hfailed : Configuration.ofFile path (directory.read path) = .error error)
  | reportUnwritable {configuration : Configuration} (hinit : arguments.initConfig = false)
      (hloaded : configurationIn directory arguments = .ok configuration)
      (hrefuses : directory.Refuses (configuration.outputPath arguments.format))

/-- A call has written its report, and its exit code tells about the results. -/
structure IsReported (clock : Clock) (directory : Directory) (arguments : Arguments)
    (configuration : Configuration) (text : String) (exitCode : Nat) (after : Directory) :
    Prop where
  loaded : configurationIn directory arguments = .ok configuration
  rendered : reportText arguments.format configuration.report
    (reportIn clock directory arguments configuration) = .ok text
  read_eq : after.read (configuration.outputPath arguments.format) = .ok text
  exitCode_eq_two_iff : exitCode = 2 ↔
    (∃ result ∈ resultsIn directory arguments configuration, result.isSuccess = false) ∧
      arguments.failOnError = true
  exitCode_eq_zero_of_ne : exitCode ≠ 2 → exitCode = 0

/-- What a call leaves behind. -/
structure Effects (clock : Clock) (directory : Directory) (arguments : Arguments) (exitCode : Nat)
    (after : Directory) : Prop where
  folders_eq : after.folders = directory.folders
  mayChange : ∀ key, after.files.get? key ≠ directory.files.get? key →
    MayChange directory arguments key
  exitCode_eq_one_iff : exitCode = 1 ↔ IsRefused directory arguments
  eq_of_exitCode_eq_one : exitCode = 1 → after = directory
  initialized : exitCode ≠ 1 → arguments.initConfig = true →
    exitCode = 0 ∧ after.read Configuration.fileName = .ok Configuration.standard.fileText
  reported : exitCode ≠ 1 → arguments.initConfig = false →
    ∃ configuration text, IsReported clock directory arguments configuration text exitCode after

/-- The numbers of a report can be written with the places that a call asks for. -/
def AcceptsPrecision (directory : Directory) (arguments : Arguments) : Prop :=
  ∀ configuration, arguments.format = .markdown →
    configurationIn directory arguments = .ok configuration →
      configuration.report.precision ≤ Report.Markdown.maxPrecision

/-! ## Exit codes -/

theorem failed_ofRuns_ne_zero_iff {generatedAt : Timestamp} {duration : Binary64}
    {runs : List RunResult} :
    (Report.ofRuns generatedAt duration runs).metadata.failed ≠ 0 ↔
      ∃ result ∈ runs, result.isSuccess = false := by
  rw [← Nat.pos_iff_ne_zero]
  simp [Report.ofRuns, Report.failedCount, List.countP_pos_iff]

section Codes

variable {clock : Clock} {directory after : Directory} {arguments : Arguments} {exitCode : Nat}

theorem exitCodeOf_ne_one (metadata : ReportMetadata) : exitCodeOf arguments metadata ≠ 1 := by
  unfold exitCodeOf
  split <;> decide

theorem exitCodeOf_eq_two_iff {metadata : ReportMetadata} :
    exitCodeOf arguments metadata = 2 ↔ metadata.failed ≠ 0 ∧ arguments.failOnError = true := by
  unfold exitCodeOf
  split <;> simp_all

theorem exitCodeOf_eq_zero_of_ne {metadata : ReportMetadata}
    (h : exitCodeOf arguments metadata ≠ 2) : exitCodeOf arguments metadata = 0 := by
  unfold exitCodeOf at h ⊢
  split at h <;> simp_all

/-! ## Configurations -/

/-- Only a chosen configuration file can fail. -/
theorem configurationIn_eq_error_iff {error : ConfigurationError} :
    configurationIn directory arguments = .error error ↔
      ∃ path, arguments.config = some path ∧
        Configuration.ofFile path (directory.read path) = .error error := by
  unfold configurationIn
  cases arguments.config with
  | none => simp
  | some path => simp

theorem placeOf_fileName {place : Directory.Place}
    (h : directory.placeOf Configuration.fileName = .ok place) :
    place = [Configuration.fileName] := by
  have hnames : Directory.namesOf Configuration.fileName = [Configuration.fileName] := by
    decide +kernel
  have hstart : Directory.startOf Configuration.fileName = [] := by decide +kernel
  simp only [Directory.placeOf, Directory.follow, hnames, hstart] at h
  split_ifs at h
  rw [List.foldlM_cons, bind_eq_ok_iff] at h
  obtain ⟨middle, hstep, hrest⟩ := h
  cases hrest
  rw [Directory.step, Directory.entryAt_of_step hstep] at hstep
  exact (Except.ok.inj hstep).symm

/-- Number formatting is all that can keep a report from being made. -/
theorem exists_reportText_eq_ok (haccepts : AcceptsPrecision directory arguments)
    {configuration : Configuration}
    (hloaded : configurationIn directory arguments = .ok configuration) :
    ∃ text, reportText arguments.format configuration.report
      (reportIn clock directory arguments configuration) = .ok text := by
  cases hformat : arguments.format with
  | json => exact ⟨_, rfl⟩
  | markdown =>
    cases hmarkdown : (reportIn clock directory arguments configuration).markdown
        configuration.report with
    | ok text => exact ⟨text, hmarkdown⟩
    | error error =>
      have hbeyond := (RunFile.markdown_eq_error (zipWith_read configuration).symm hmarkdown).2
      exact absurd (haccepts configuration hformat hloaded) hbeyond.not_ge

/-! ## The effects of an ending -/

namespace Ending

theorem folders_eq (h : Ending clock directory arguments exitCode after) :
    after.folders = directory.folders := by
  cases h <;> rfl

theorem mayChange (h : Ending clock directory arguments exitCode after) {key : String}
    (hne : after.files.get? key ≠ directory.files.get? key) :
    MayChange directory arguments key := by
  cases h with
  | configurationWritten hinit habsent hplace =>
    rw [Directory.get?_withFile, placeOf_fileName hplace.placeOf_eq] at hne
    split at hne
    · rename_i hkey
      rw [hkey]
      exact .configuration hinit habsent
    · exact absurd rfl hne
  | reportWritten hvalid hinit hloaded hreport hplace =>
    rw [Directory.get?_withFile] at hne
    split at hne
    · rename_i hkey
      rw [hkey]
      exact .report hinit hloaded hplace.placeOf_eq
    · exact absurd rfl hne
  | _ => exact absurd rfl hne

theorem eq_of_exitCode_eq_one (h : Ending clock directory arguments exitCode after)
    (hcode : exitCode = 1) : after = directory := by
  cases h with
  | configurationWritten => cases hcode
  | reportWritten => exact absurd hcode (exitCodeOf_ne_one _)
  | _ => rfl

theorem isRefused_of_exitCode_eq_one (h : Ending clock directory arguments exitCode after)
    (hcode : exitCode = 1) : IsRefused directory arguments := by
  cases h with
  | argumentsRefused hrefused => exact .arguments hrefused
  | configurationPresent hinit hpresent => exact .configurationPresent hinit hpresent
  | configurationUnwritable hinit habsent hrefuses => exact .configurationUnwritable hinit hrefuses
  | configurationWritten => cases hcode
  | configurationFailed hvalid hinit hfailed =>
    obtain ⟨path, hchosen, hfailed⟩ := configurationIn_eq_error_iff.1 hfailed
    exact .chosenConfiguration hinit hchosen hfailed
  | reportUnrendered => cases hcode
  | reportUnwritable hvalid hinit hloaded hreport hrefuses =>
    exact .reportUnwritable hinit hloaded hrefuses
  | reportWritten => exact absurd hcode (exitCodeOf_ne_one _)

/-- Refused calls end with exit code one, since nothing else lets a call that is refused end. -/
theorem exitCode_eq_one_of_isRefused (h : Ending clock directory arguments exitCode after)
    (haccepts : AcceptsPrecision directory arguments)
    (hrefused : IsRefused directory arguments) : exitCode = 1 := by
  cases h with
  | configurationWritten hinit habsent hplace =>
    cases hrefused with
    | arguments hrefused => simp [Arguments.error?, hinit] at hrefused
    | configurationPresent _ hpresent => cases habsent.symm.trans hpresent
    | configurationUnwritable _ hrefuses => exact absurd hrefuses hplace.not_refuses
    | chosenConfiguration hinit' => cases hinit.symm.trans hinit'
    | reportUnwritable hinit' => cases hinit.symm.trans hinit'
  | reportUnrendered hvalid hinit hloaded hreport =>
    obtain ⟨text, htext⟩ := exists_reportText_eq_ok haccepts hloaded
    cases hreport.symm.trans htext
  | reportWritten hvalid hinit hloaded hreport hplace =>
    cases hrefused with
    | arguments hrefused => cases hvalid.symm.trans hrefused
    | configurationPresent hinit' => cases hinit.symm.trans hinit'
    | configurationUnwritable hinit' => cases hinit.symm.trans hinit'
    | chosenConfiguration _ hchosen hfailed =>
      cases hloaded.symm.trans (configurationIn_eq_error_iff.2 ⟨_, hchosen, hfailed⟩)
    | reportUnwritable _ hloaded' hrefuses =>
      cases hloaded.symm.trans hloaded'
      exact absurd hrefuses hplace.not_refuses
  | _ => rfl

theorem initialized (h : Ending clock directory arguments exitCode after) (hcode : exitCode ≠ 1)
    (hinit : arguments.initConfig = true) :
    exitCode = 0 ∧ after.read Configuration.fileName = .ok Configuration.standard.fileText := by
  cases h with
  | configurationWritten _ _ hplace =>
    exact ⟨rfl, hplace.read_withFile Configuration.standard.fileText⟩
  | reportUnrendered _ hinit' => cases hinit.symm.trans hinit'
  | reportWritten _ hinit' => cases hinit.symm.trans hinit'
  | _ => exact absurd rfl hcode

theorem exists_isReported (h : Ending clock directory arguments exitCode after)
    (haccepts : AcceptsPrecision directory arguments) (hcode : exitCode ≠ 1)
    (hinit : arguments.initConfig = false) :
    ∃ configuration text, IsReported clock directory arguments configuration text exitCode
      after := by
  cases h with
  | configurationWritten hinit' => cases hinit.symm.trans hinit'
  | reportUnrendered _ _ hloaded hreport =>
    obtain ⟨text, htext⟩ := exists_reportText_eq_ok haccepts hloaded
    cases hreport.symm.trans htext
  | @reportWritten configuration text place hvalid _ hloaded hreport hplace =>
    have htwo :
        exitCodeOf arguments (reportIn clock directory arguments configuration).metadata = 2 ↔
          (∃ result ∈ resultsIn directory arguments configuration, result.isSuccess = false) ∧
            arguments.failOnError = true :=
      exitCodeOf_eq_two_iff.trans (and_congr_left' failed_ofRuns_ne_zero_iff)
    exact ⟨configuration, text, hloaded, hreport, hplace.read_withFile text, htwo,
      exitCodeOf_eq_zero_of_ne⟩
  | _ => exact absurd rfl hcode

theorem effects (h : Ending clock directory arguments exitCode after)
    (haccepts : AcceptsPrecision directory arguments) :
    Effects clock directory arguments exitCode after where
  folders_eq := h.folders_eq
  mayChange _ := h.mayChange
  exitCode_eq_one_iff := ⟨h.isRefused_of_exitCode_eq_one, h.exitCode_eq_one_of_isRefused haccepts⟩
  eq_of_exitCode_eq_one := h.eq_of_exitCode_eq_one
  initialized := h.initialized
  reported := h.exists_isReported haccepts

/-- The request for a configuration file changes nothing if that file is there. -/
theorem eq_of_initConfig (h : Ending clock directory arguments exitCode after)
    (hinit : arguments.initConfig = true) {content : ByteArray}
    (hcontent : directory.files.get? Configuration.fileName = some content) :
    after = directory := by
  cases h with
  | configurationWritten _ habsent hplace =>
    -- A file that is there is present, whatever else is wrong with the directory.
    have hnone := hplace.get?_eq_none habsent
    rw [placeOf_fileName hplace.placeOf_eq] at hnone
    cases hcontent.symm.trans hnone
  | reportWritten _ hinit' => cases hinit.symm.trans hinit'
  | _ => rfl

end Ending

/-! ## Sequences of calls -/

/-- The directory after some calls, each of them in the directory that the one before it left. -/
def runAll (directory : Directory) (calls : List (Clock × List String)) : Directory :=
  calls.foldl (fun directory (clock, words) ↦ (runIn clock directory words).2) directory

theorem runAll_append_singleton (calls : List (Clock × List String)) (clock : Clock)
    (words : List String) :
    runAll directory (calls ++ [(clock, words)]) =
      (runIn clock (runAll directory calls) words).2 := by
  rw [runAll, List.foldl_append]
  rfl

/-- Only well-formed arguments can change a directory. -/
theorem runIn_snd_of_forall_ne {words : List String}
    (h : ∀ arguments, CommandLine.read words ≠ .ok (.run arguments)) :
    (runIn clock directory words).2 = directory := by
  simp only [runIn, run]
  split
  · rfl
  · rfl
  · rfl
  · rename_i arguments hwords
    exact absurd hwords (h arguments)

/-- A call writes its report over the configuration file, as far as its output path goes. -/
def IsReportOver (directory : Directory) (words : List String) : Prop :=
  ∃ arguments, CommandLine.read words = .ok (.run arguments) ∧ arguments.initConfig = false ∧
    MayChange directory arguments Configuration.fileName

/-- Some call among others writes its report over the configuration file, which has a given content
up to then. -/
def IsOverwritten (directory : Directory) (calls : List (Clock × List String))
    (content : ByteArray) : Prop :=
  ∃ front clock words back, calls = front ++ (clock, words) :: back ∧
    (runAll directory front).files.get? Configuration.fileName = some content ∧
    IsReportOver (runAll directory front) words

theorem get?_runIn_or_isReportOver {content : ByteArray}
    (hcontent : directory.files.get? Configuration.fileName = some content) (clock : Clock)
    (words : List String) :
    (runIn clock directory words).2.files.get? Configuration.fileName = some content ∨
      IsReportOver directory words := by
  by_cases hrun : ∃ arguments, CommandLine.read words = .ok (.run arguments)
  · obtain ⟨arguments, hwords⟩ := hrun
    have hending : Ending clock directory arguments _ (runIn clock directory words).2 :=
      ending_runIn hwords rfl
    by_cases hsame : (runIn clock directory words).2.files.get? Configuration.fileName =
        directory.files.get? Configuration.fileName
    · exact .inl (hsame.trans hcontent)
    · cases hinit : arguments.initConfig with
      | true => exact absurd (by rw [hending.eq_of_initConfig hinit hcontent]) hsame
      | false => exact .inr ⟨arguments, hwords, hinit, hending.mayChange hsame⟩
  · left
    rw [runIn_snd_of_forall_ne fun arguments hwords ↦ hrun ⟨arguments, hwords⟩, hcontent]

/-- The first call that changes the configuration file writes its report over it. -/
theorem get?_runAll_or_isOverwritten {content : ByteArray}
    (hcontent : directory.files.get? Configuration.fileName = some content)
    (calls : List (Clock × List String)) :
    (runAll directory calls).files.get? Configuration.fileName = some content ∨
      IsOverwritten directory calls content := by
  -- From the last call on, since each call is in the directory that all before it left.
  induction calls using List.reverseRecOn with
  | nil => exact .inl hcontent
  | append_singleton calls call ih =>
    obtain ⟨clock, words⟩ := call
    rcases ih with hkept | ⟨front, clock', words', back, rfl, hkept, hover⟩
    · rw [runAll_append_singleton]
      rcases get?_runIn_or_isReportOver hkept clock words with hkept' | hover
      · exact .inl hkept'
      · exact .inr ⟨calls, clock, words, [], rfl, hkept, hover⟩
    · exact .inr ⟨front, clock', words', back ++ [(clock, words)], by simp, hkept, hover⟩

end Codes

/-! ## All calls -/

/-- Every call with well-formed arguments has the effects above, and every other call changes
nothing. In a sequence of calls the request for a configuration file changes nothing if that file is
there, and the file stays what it is until a call writes its report over it. -/
theorem effects_of_calls :
    (∀ (clock : Clock) (directory : Directory) (words : List String) (arguments : Arguments),
      CommandLine.read words = .ok (.run arguments) →
        AcceptsPrecision directory arguments →
          Effects clock directory arguments (runIn clock directory words).1.exitCode
            (runIn clock directory words).2) ∧
    (∀ (clock : Clock) (directory : Directory) (words : List String),
      (∀ arguments, CommandLine.read words ≠ .ok (.run arguments)) →
        (runIn clock directory words).2 = directory) ∧
    (∀ (directory : Directory) (calls : List (Clock × List String)) (clock : Clock)
        (words : List String) (arguments : Arguments) (content : ByteArray),
      CommandLine.read words = .ok (.run arguments) → arguments.initConfig = true →
        (runAll directory calls).files.get? Configuration.fileName = some content →
          runAll directory (calls ++ [(clock, words)]) = runAll directory calls) ∧
    (∀ (directory : Directory) (calls : List (Clock × List String)) (content : ByteArray),
      directory.files.get? Configuration.fileName = some content →
        (runAll directory calls).files.get? Configuration.fileName = some content ∨
          IsOverwritten directory calls content) := by
  refine ⟨?_, ?_, ?_, ?_⟩
  · intro clock directory words arguments hwords haccepts
    exact (ending_runIn hwords rfl).effects haccepts
  · intro clock directory words h
    exact runIn_snd_of_forall_ne h
  · intro directory calls clock words arguments content hwords hinit hcontent
    rw [runAll_append_singleton]
    exact (ending_runIn hwords rfl).eq_of_initConfig hinit hcontent
  · intro directory calls content hcontent
    exact get?_runAll_or_isOverwritten hcontent calls

/-! ### A study of one run file -/

def studySettings : String := "[report]\nprecision = 2\n"

/-- The settings of a study and the only one of its run files that is left. -/
def studyDirectory : Directory :=
  .ofFiles [(Configuration.fileName, studySettings.toUTF8),
    ("PART_DISC/hopCount.csv", "settings: 3_5\nm: 1,2\n".toUTF8)]

def studyWords : List String := ["PART_DISC/hopCount.csv", "lost.csv", "--fail-on-error"]

def studyArguments : Arguments :=
  { Arguments.empty with files := ["PART_DISC/hopCount.csv", "lost.csv"], failOnError := true }

/-- The run file that is left is reported, and the exit code tells of the lost one. -/
theorem effects_of_calls_studyDirectory :
    CommandLine.read studyWords = .ok (.run studyArguments) ∧
    AcceptsPrecision studyDirectory studyArguments ∧
    (∃ configuration text, IsReported default studyDirectory studyArguments configuration text 2
      (runIn default studyDirectory studyWords).2) ∧
    (runIn default studyDirectory ["--help"]).2 = studyDirectory ∧
    (runAll studyDirectory [(default, studyWords)]).files.get? Configuration.fileName =
      some studySettings.toUTF8 ∧
    runAll studyDirectory [(default, studyWords), (default, ["--init-config"])] =
      runAll studyDirectory [(default, studyWords)] ∧
    studyDirectory.files.get? Configuration.fileName = some studySettings.toUTF8 ∧
    ((runAll studyDirectory [(default, studyWords)]).files.get? Configuration.fileName =
        some studySettings.toUTF8 ∨
      IsOverwritten studyDirectory [(default, studyWords)] studySettings.toUTF8) := by
  have hwords : CommandLine.read studyWords = .ok (.run studyArguments) := by decide +kernel
  have haccepts : AcceptsPrecision studyDirectory studyArguments := by
    have hprecision : (configurationIn studyDirectory studyArguments).map (·.report.precision) =
        .ok 2 := by decide +kernel
    intro configuration _ hloaded
    rw [hloaded] at hprecision
    have htwo : configuration.report.precision = 2 := Except.ok.inj hprecision
    rw [htwo]
    decide
  have heffects := effects_of_calls.1 default studyDirectory studyWords studyArguments hwords
    haccepts
  have hcode : (runIn default studyDirectory studyWords).1.exitCode = 2 := by decide +kernel
  rw [hcode] at heffects
  have hhelp : ∀ arguments, CommandLine.read ["--help"] ≠ .ok (.run arguments) := by
    have hread : CommandLine.read ["--help"] = .ok .help := by decide +kernel
    intro arguments hrun
    cases hread.symm.trans hrun
  have hrequest : CommandLine.read ["--init-config"] =
      .ok (.run { Arguments.empty with initConfig := true }) := by decide +kernel
  have hkept : (runAll studyDirectory [(default, studyWords)]).files.get? Configuration.fileName =
      some studySettings.toUTF8 := by decide +kernel
  have hcontent : studyDirectory.files.get? Configuration.fileName = some studySettings.toUTF8 := by
    decide +kernel
  exact ⟨hwords, haccepts, heffects.reported (by decide) rfl,
    effects_of_calls.2.1 default studyDirectory ["--help"] hhelp, hkept,
    effects_of_calls.2.2.1 studyDirectory [(default, studyWords)] default ["--init-config"] _ _
      hrequest rfl hkept,
    hcontent, effects_of_calls.2.2.2 studyDirectory [(default, studyWords)] _ hcontent⟩

end TrialSeries.Program
