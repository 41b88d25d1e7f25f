import TrialSeries.Program
import TrialSeries.Proofs.DirectoryWrites

/-!
# How a call ends

A call in a directory reads what it needs and then writes one file or none. `Ending` lists the ways
in which a call with well-formed arguments can end, each with its exit code and the directory that
it leaves; every such call ends in one of them.
-/

namespace TrialSeries.Program

/-! ## What a call reads -/

/-- The configuration under which a call in a directory works. A chosen file has to hold one; the
file that is read if none is chosen only counts if it holds one. -/
def configurationIn (directory : Directory) (arguments : Arguments) :
    Except ConfigurationError Configuration :=
  let held (path : String) := Configuration.ofFile path (directory.read path)
  match arguments.config with
  | some path => (held path).map (·.withArguments arguments)
  | none =>
    .ok (((held Configuration.fileName).toOption.getD .standard).withArguments arguments)

/-- The results of the run files that the arguments name. -/
def resultsIn (directory : Directory) (arguments : Arguments) (configuration : Configuration) :
    List RunResult :=
  arguments.files.map fun path ↦
    RunFile.result configuration.table configuration.alignment (.ofPath path arguments.trial)
      (directory.read path)

/-- The report of these results. -/
def reportIn (clock : Clock) (directory : Directory) (arguments : Arguments)
    (configuration : Configuration) : Report :=
  .ofRuns clock.now clock.elapsed (resultsIn directory arguments configuration)

/-! ## Endings -/

/-- The exit code of a call and the directory after it. -/
inductive Ending (clock : Clock) (directory : Directory) (arguments : Arguments) :
    Nat → Directory → Prop
  | argumentsRefused {error : ArgumentsError} (hrefused : arguments.error? = some error) :
    Ending clock directory arguments 1 directory
  | configurationPresent (hinit : arguments.initConfig = true)
      (hpresent : directory.isPresent Configuration.fileName = true) :
    Ending clock directory arguments 1 directory
  | configurationUnwritable (hinit : arguments.initConfig = true)
      (habsent : directory.isPresent Configuration.fileName = false)
      (hrefuses : directory.Refuses Configuration.fileName) :
    Ending clock directory arguments 1 directory
  | configurationWritten {place : Directory.Place} (hinit : arguments.initConfig = true)
      (habsent : directory.isPresent Configuration.fileName = false)
      (hplace : directory.LeadsToFile Configuration.fileName place) :
    Ending clock directory arguments 0
      (directory.withFile place Configuration.standard.fileText)
  | configurationFailed {error : ConfigurationError} (hvalid : arguments.error? = none)
      (hinit : arguments.initConfig = false)
      (hfailed : configurationIn directory arguments = .error error) :
    Ending clock directory arguments 1 directory
  | reportUnrendered {configuration : Configuration} {error : RenderError}
      (hvalid : arguments.error? = none) (hinit : arguments.initConfig = false)
      (hloaded : configurationIn directory arguments = .ok configuration)
      (hreport : reportText arguments.format configuration.report
        (reportIn clock directory arguments configuration) = .error error) :
    Ending clock directory arguments 101 directory
  | reportUnwritable {configuration : Configuration} {text : String}
      (hvalid : arguments.error? = none) (hinit : arguments.initConfig = false)
      (hloaded : configurationIn directory arguments = .ok configuration)
      (hreport : reportText arguments.format configuration.report
        (reportIn clock directory arguments configuration) = .ok text)
      (hrefuses : directory.Refuses (configuration.outputPath arguments.format)) :
    Ending clock directory arguments 1 directory
  | reportWritten {configuration : Configuration} {text : String} {place : Directory.Place}
      (hvalid : arguments.error? = none) (hinit : arguments.initConfig = false)
      (hloaded : configurationIn directory arguments = .ok configuration)
      (hreport : reportText arguments.format configuration.report
        (reportIn clock directory arguments configuration) = .ok text)
      (hplace : directory.LeadsToFile (configuration.outputPath arguments.format) place) :
    Ending clock directory arguments
      (exitCodeOf arguments (reportIn clock directory arguments configuration).metadata)
      (directory.withFile place text)

/-! ## Access to the directory -/

section Access

variable {clock : Clock} {directory : Directory} {α : Type}

theorem run_read_bind (path : String) (next : Except FileError String → StateM Directory α) :
    ((Directory.environment clock).read path >>= next).run directory =
      (next (directory.read path)).run directory := rfl

theorem run_isPresent_bind (path : String) (next : Bool → StateM Directory α) :
    ((Directory.environment clock).isPresent path >>= next).run directory =
      (next (directory.isPresent path)).run directory := rfl

theorem run_clock_bind (next : Clock → StateM Directory α) :
    ((Directory.environment clock).clock >>= next).run directory = (next clock).run directory := rfl

theorem run_write_bind (path text : String) (next : Except FileError Unit → StateM Directory α) :
    ((Directory.environment clock).write path text >>= next).run directory =
      (next (directory.written path text).1).run (directory.written path text).2 := rfl

theorem run_write_bind_of_leadsToFile {path : String} {place : Directory.Place}
    (h : directory.LeadsToFile path place) (text : String)
    (next : Except FileError Unit → StateM Directory α) :
    ((Directory.environment clock).write path text >>= next).run directory =
      (next (.ok ())).run (directory.withFile place text) := by
  rw [run_write_bind, Directory.written, h.write_eq]

theorem run_write_bind_of_refuses {path : String} (h : directory.Refuses path) (text : String)
    (next : Except FileError Unit → StateM Directory α) :
    ∃ error, ((Directory.environment clock).write path text >>= next).run directory =
      (next (.error error)).run directory := by
  obtain ⟨error, herror⟩ := h
  exact ⟨error, by rw [run_write_bind, Directory.written, herror]⟩

theorem run_bind_of_run {first : StateM Directory α} {value : α} {after : Directory} {β : Type}
    (h : first.run directory = (value, after)) (next : α → StateM Directory β) :
    (first >>= next).run directory = (next value).run after := by
  change (next (first.run directory).1).run (first.run directory).2 = _
  rw [h]

theorem exists_of_run_bind {first : StateM Directory α} {β : Type} {next : α → StateM Directory β}
    {result : β × Directory} (h : (first >>= next).run directory = result) :
    ∃ value after, first.run directory = (value, after) ∧ (next value).run after = result :=
  ⟨_, _, rfl, h⟩

theorem run_mapM_read (files : List RunFile) :
    (files.mapM fun file ↦ (Directory.environment clock).read file.path).run directory =
      (files.map fun file ↦ directory.read file.path, directory) := by
  induction files with
  | nil => rfl
  | cons file files ih =>
    rw [List.mapM_cons, run_read_bind, run_bind_of_run ih]
    rfl

end Access

/-! ## Every call ends -/

section Runs

variable {clock : Clock} {directory : Directory} {arguments : Arguments}

/-- A file that is not present cannot be read, so there is no need to look for it first. -/
theorem run_loadDefault :
    ∃ source, (loadDefault (Directory.environment clock)).run directory =
      (((Configuration.ofFile Configuration.fileName (directory.read Configuration.fileName))
        |>.toOption.getD .standard, source), directory) := by
  simp only [loadDefault, run_isPresent_bind]
  split
  · simp only [run_read_bind]
    split
    · rename_i configuration hheld
      rw [hheld]
      exact ⟨.defaultFile, rfl⟩
    · rename_i error hheld
      rw [hheld]
      exact ⟨.ignoredFile error, rfl⟩
  · rename_i hpresent
    obtain ⟨error, hread⟩ := Directory.exists_read_eq_error (Bool.eq_false_of_not_eq_true hpresent)
    rw [hread]
    exact ⟨.builtIn, rfl⟩

theorem run_load (arguments : Arguments) :
    ∃ loaded, (load (Directory.environment clock) arguments.config).run directory =
        (loaded, directory) ∧
      loaded.map (fun (configuration, _) ↦ configuration.withArguments arguments) =
        configurationIn directory arguments := by
  unfold configurationIn
  cases arguments.config with
  | some path =>
    have htwice (held : Except ConfigurationError Configuration) :
        (held.map (·, ConfigurationSource.chosenFile path)).map
            (fun (configuration, _) ↦ configuration.withArguments arguments) =
          held.map (·.withArguments arguments) := by
      cases held <;> rfl
    exact ⟨_, rfl, htwice _⟩
  | none =>
    obtain ⟨source, hsource⟩ := @run_loadDefault clock directory
    simp only [load]
    rw [run_bind_of_run hsource]
    exact ⟨_, rfl, rfl⟩

theorem ending_initConfig (hinit : arguments.initConfig = true) {outcome : Outcome}
    {after : Directory}
    (h : (initConfig (Directory.environment clock)).run directory = (outcome, after)) :
    Ending clock directory arguments outcome.exitCode after := by
  simp only [initConfig, run_isPresent_bind] at h
  split at h
  · rename_i hpresent
    cases h
    exact .configurationPresent hinit hpresent
  · rename_i hpresent
    have habsent := Bool.eq_false_of_not_eq_true hpresent
    rcases directory.leadsToFile_or_refuses Configuration.fileName with ⟨place, hplace⟩ | hrefuses
    · rw [run_write_bind_of_leadsToFile hplace] at h
      cases h
      exact .configurationWritten hinit habsent hplace
    · obtain ⟨error, herror⟩ := @run_write_bind_of_refuses clock _ _ _ hrefuses
        Configuration.standard.fileText _
      rw [herror] at h
      cases h
      exact .configurationUnwritable hinit habsent hrefuses

/-- What is written does not depend on what was reported before. -/
theorem ending_deliver (hvalid : arguments.error? = none) (hinit : arguments.initConfig = false)
    {configuration : Configuration}
    (hloaded : configurationIn directory arguments = .ok configuration)
    {events : List Event} {outcome : Outcome} {after : Directory}
    (h : (deliver (Directory.environment clock) arguments configuration
      (resultsIn directory arguments configuration) events).run directory = (outcome, after)) :
    Ending clock directory arguments outcome.exitCode after := by
  simp only [deliver, run_clock_bind] at h
  split at h
  · rename_i error hreport
    cases h
    exact .reportUnrendered hvalid hinit hloaded hreport
  · rename_i text hreport
    rcases directory.leadsToFile_or_refuses (configuration.outputPath arguments.format) with
      ⟨place, hplace⟩ | hrefuses
    · rw [run_write_bind_of_leadsToFile hplace] at h
      cases h
      exact .reportWritten hvalid hinit hloaded hreport hplace
    · obtain ⟨error, herror⟩ := @run_write_bind_of_refuses clock _ _ _ hrefuses text _
      rw [herror] at h
      cases h
      exact .reportUnwritable hvalid hinit hloaded hreport hrefuses

theorem zipWith_read (configuration : Configuration) :
    (arguments.files.map (RunFile.ofPath · arguments.trial)).zipWith
        (RunFile.result configuration.table configuration.alignment)
        ((arguments.files.map (RunFile.ofPath · arguments.trial)).map
          fun file ↦ directory.read file.path) =
      resultsIn directory arguments configuration := by
  rw [resultsIn, List.zipWith_map_right, List.zipWith_self, List.map_map]
  rfl

theorem ending_aggregateWith (hvalid : arguments.error? = none)
    (hinit : arguments.initConfig = false) {configuration : Configuration}
    (hloaded : configurationIn directory arguments = .ok configuration)
    {source : ConfigurationSource} {outcome : Outcome} {after : Directory}
    (h : (aggregateWith (Directory.environment clock) arguments configuration source).run
      directory = (outcome, after)) :
    Ending clock directory arguments outcome.exitCode after := by
  simp only [aggregateWith] at h
  rw [run_bind_of_run (run_mapM_read _), zipWith_read] at h
  obtain ⟨delivered, left, hdeliver, h⟩ := exists_of_run_bind h
  cases h
  have hending := ending_deliver hvalid hinit hloaded hdeliver
  exact hending

theorem ending_aggregate (hvalid : arguments.error? = none) (hinit : arguments.initConfig = false)
    {outcome : Outcome} {after : Directory}
    (h : (aggregate (Directory.environment clock) arguments).run directory = (outcome, after)) :
    Ending clock directory arguments outcome.exitCode after := by
  obtain ⟨loaded, hrun, hconfiguration⟩ := @run_load clock directory arguments
  simp only [aggregate] at h
  rw [run_bind_of_run hrun] at h
  cases loaded with
  | error error =>
    cases h
    exact .configurationFailed hvalid hinit hconfiguration.symm
  | ok loaded => exact ending_aggregateWith hvalid hinit hconfiguration.symm h

theorem ending_runIn {words : List String} (hwords : CommandLine.read words = .ok (.run arguments))
    {outcome : Outcome} {after : Directory} (h : runIn clock directory words = (outcome, after)) :
    Ending clock directory arguments outcome.exitCode after := by
  simp only [runIn, run, hwords] at h
  split at h
  · rename_i error hrefused
    cases h
    exact .argumentsRefused hrefused
  · rename_i hvalid
    split at h
    · rename_i hinit
      exact ending_initConfig hinit h
    · rename_i hinit
      exact ending_aggregate hvalid (Bool.eq_false_of_not_eq_true hinit) h

end Runs

end TrialSeries.Program
