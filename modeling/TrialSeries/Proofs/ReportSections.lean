import TrialSeries.Proofs.ReportLines

/-!
# The sections of a report

The text of a report can be cut into its sections again, whatever the runs are called: no line of a
table or a list can be taken for a heading. The summary has a row for each run, the contents and the
results name the successful runs in the same order under their trials, and the failed runs are
listed in the order in which they came.
-/

namespace TrialSeries

/-- A result holds an aligned series or an error. -/
inductive RunResult.IsOutcome (result : RunResult) : Prop where
  | aligned (series : Series) (hseries : result.series = some series)
      (haligned : series.IsAligned) : IsOutcome result
  | failed (error : String) (hseries : result.series = none) (herror : result.error = some error) :
      IsOutcome result

namespace Report

open Text

/-! ## What is read off a text -/

/-- The sections of a text, each with its title and the lines behind it. -/
def sectionsOf (text : String) : List (String × List String) :=
  sections (after? "## ") (lineTexts text)

/-- The lines behind the heading of a section. -/
def bodyOf (text title : String) : List String := ((sectionsOf text).lookup title).getD []

/-- The lines with a mark at their start, without the mark. -/
def marked (mark : String) (lines : List String) : List String := lines.filterMap (after? mark)

/-- The parts of some lines that a mark opens, each with what else is marked in it. -/
def markedIn (outer inner : String) (lines : List String) : List (String × List String) :=
  (sections (after? outer) lines).map fun (title, body) ↦ (title, marked inner body)

namespace Markdown

/-! ## Headings and other lines -/

theorem head?_toList_of_mem_tableText {precision : Nat} {series : Series} {line : String}
    (h : line ∈ tableText precision series) :
    line.toList.head? ∈ [none, some '|', some '>', some '*'] := by
  unfold tableText at h
  split at h
  · rename_i lines hlines
    cases hempty : series.isEmpty with
    | true =>
      rw [tableLines_of_isEmpty hempty, Except.ok.injEq] at hlines
      subst hlines
      rcases List.mem_pair.1 h with rfl | rfl <;> decide
    | false =>
      have hhead := (isTable_of_tableLines hempty hlines).head?_toList h
      simp only [List.mem_cons, List.not_mem_nil, or_false] at hhead ⊢
      tauto
  · cases h

/-- A table has no heading. -/
theorem after?_eq_none_of_mem_tableText {precision : Nat} {series : Series} {line mark : String}
    (hmark : mark.toList.head? = some '#') (h : line ∈ tableText precision series) :
    after? mark line = none := by
  apply after?_eq_none_of_head?_ne
  · rintro hnil
    simp [hnil] at hmark
  · have hhead := head?_toList_of_mem_tableText h
    rw [hmark]
    rintro heq
    simp [heq] at hhead

section Headings

variable {precision : Nat} {runs : List RunResult} {line : String}

theorem sectionMark_of_mem_runText {run : RunResult} (h : line ∈ runText precision run) :
    after? "## " line = none := by
  unfold runText at h
  split at h
  · cases h
  · simp only [List.mem_cons] at h
    rcases h with rfl | rfl | h
    · simp [runHeading, after?, List.dropPrefix?]
    · simp [after?, List.dropPrefix?]
    · exact after?_eq_none_of_mem_tableText (by decide) h

theorem sectionMark_of_mem_resultsText (h : line ∈ resultsText precision runs) :
    after? "## " line = none := by
  rw [resultsText, List.mem_cons] at h
  rcases h with rfl | h
  · decide
  · split at h
    · obtain ⟨trial, -, h⟩ := List.mem_flatMap.1 h
      simp only [trialText, List.mem_cons, List.mem_flatMap] at h
      rcases h with rfl | rfl | ⟨run, -, h⟩
      · simp [after?, List.dropPrefix?]
      · decide
      · exact sectionMark_of_mem_runText h
    · rcases List.mem_pair.1 h with rfl | rfl <;> decide

theorem sectionMark_of_mem_metadataLines {metadata : ReportMetadata}
    (h : line ∈ (metadataLines metadata).tail) : after? "## " line = none := by
  simp only [metadataLines, List.cons_append, List.tail_cons, List.mem_append, List.mem_cons,
    List.not_mem_nil, or_false, List.nil_append] at h
  rcases h with rfl | rfl | rfl | rfl | h | rfl | rfl
  any_goals simp [after?, List.dropPrefix?]
  split at h
  · cases h
  · obtain rfl := List.mem_singleton.1 h
    simp [List.dropPrefix?]

theorem sectionMark_of_mem_contentsLines (h : line ∈ (contentsLines runs).tail) :
    after? "## " line = none := by
  simp only [contentsLines, contentsOfTrial, List.cons_append, List.tail_cons, List.nil_append,
    List.mem_append, List.mem_cons, List.not_mem_nil, or_false, List.mem_flatMap, List.mem_map] at h
  rcases h with rfl | rfl | rfl | rfl | ⟨entry, -, rfl | ⟨run, -, rfl⟩⟩ | rfl
  any_goals simp [contentsEntry, after?, List.dropPrefix?]

theorem sectionMark_of_mem_summaryLines (h : line ∈ (summaryLines runs).tail) :
    after? "## " line = none := by
  simp only [summaryLines, summaryRow, List.cons_append, List.tail_cons, List.nil_append,
    List.mem_append, List.mem_cons, List.not_mem_nil, or_false, List.mem_flatMap, List.mem_map] at h
  rcases h with rfl | rfl | rfl | ⟨entry, -, run, -, rfl⟩ | rfl
  any_goals simp [after?, List.dropPrefix?]

theorem sectionMark_of_mem_failuresText (h : line ∈ failuresText runs) :
    after? "## " line = none := by
  simp only [failuresText, List.cons_append, List.mem_append, List.mem_cons, List.not_mem_nil,
    or_false, List.mem_map] at h
  rcases h with rfl | ⟨run, -, rfl⟩ | rfl
  · decide
  · simp [failureLine, after?, List.dropPrefix?]
  · decide

theorem sectionMark_of_mem_closing (h : line ∈ footerLines ++ [""]) :
    after? "## " line = none := by
  have hall : ∀ line ∈ footerLines ++ [""], after? "## " line = none := by decide
  exact hall line h

theorem sectionMark_of_mem_parts {options : ReportOptions} {report : Report}
    {part : String × List String} (hpart : part ∈ parts options report) (h : line ∈ part.2) :
    after? "## " line = none := by
  unfold parts at hpart
  simp only [List.cons_append, List.nil_append, List.mem_cons] at hpart
  rcases hpart with rfl | rfl | rfl | hpart
  · exact sectionMark_of_mem_metadataLines h
  · exact sectionMark_of_mem_contentsLines h
  · exact sectionMark_of_mem_summaryLines h
  · split at hpart
    · rcases List.mem_pair.1 hpart with rfl | rfl
      · exact sectionMark_of_mem_resultsText h
      · rw [List.append_assoc, List.mem_append] at h
        exact h.elim sectionMark_of_mem_failuresText sectionMark_of_mem_closing
    · obtain rfl := List.mem_singleton.1 hpart
      rw [List.append_assoc, List.mem_append] at h
      exact h.elim sectionMark_of_mem_resultsText sectionMark_of_mem_closing

end Headings

end Markdown

/-- The sections of a report that can be written are its parts. -/
theorem sectionsOf_eq_parts {options : ReportOptions} {report : Report} {text : String}
    (hversion : IsOneLine report.metadata.version) (hplain : ∀ run ∈ report.runs, run.IsPlain)
    (h : report.markdown options = .ok text) : sectionsOf text = Markdown.parts options report := by
  unfold Report.markdown at h
  rw [bind_eq_ok_iff] at h
  obtain ⟨lines, hlines, h⟩ := h
  have honeLine : ∀ line ∈ lines, IsOneLine line := fun line hline ↦
    Markdown.isOneLine_of_mem_lines hversion hplain hlines hline
  have hfront : ∀ line ∈ ["# Trialstats Report", ""], after? "## " line = none := by decide
  rw [← Except.ok.inj h, sectionsOf, lineTexts_join honeLine,
    Markdown.lines_append_eq_parts hlines, sections_append_of_forall_none hfront]
  calc
    _ = (Markdown.parts options report).map fun part ↦ (part.1, part.2) := by
      apply sections_flatMap
      · intro part _
        exact after?_eq_some_iff.2 rfl
      · intro part hpart line hline
        exact Markdown.sectionMark_of_mem_parts hpart hline
    _ = Markdown.parts options report := List.map_id' _

/-! ## Marked lines -/

section Marks

variable {outer inner mark : String} {front back lines : List String}

theorem marked_append : marked mark (front ++ back) = marked mark front ++ marked mark back :=
  List.filterMap_append

theorem marked_eq_nil (h : ∀ line ∈ lines, after? mark line = none) : marked mark lines = [] :=
  List.filterMap_eq_nil_iff.2 h

theorem marked_cons_of_none {line : String} (h : after? mark line = none) :
    marked mark (line :: lines) = marked mark lines := List.filterMap_cons_none h

theorem marked_cons_of_some {line rest : String} (h : after? mark line = some rest) :
    marked mark (line :: lines) = rest :: marked mark lines := List.filterMap_cons_some h

theorem marked_flatMap {α : Type} (items : List α) (f : α → List String) :
    marked mark (items.flatMap f) = items.flatMap fun item ↦ marked mark (f item) :=
  List.filterMap_flatMap

theorem marked_takeWhile_append (keep : String → Bool)
    (h : ∀ line ∈ back, after? mark line = none) :
    marked mark ((front ++ back).takeWhile keep) = marked mark (front.takeWhile keep) := by
  have hnone : marked mark (back.takeWhile keep) = [] :=
    marked_eq_nil fun line hline ↦ h line (List.takeWhile_subset _ hline)
  rw [List.takeWhile_append]
  split
  · rename_i hall
    rw [marked_append, hnone, List.append_nil, (List.takeWhile_prefix keep).eq_of_length hall]
  · rfl

/-- Lines without marks at the end make no difference. -/
theorem markedIn_append (houter : ∀ line ∈ back, after? outer line = none)
    (hinner : ∀ line ∈ back, after? inner line = none) :
    markedIn outer inner (front ++ back) = markedIn outer inner front := by
  induction front with
  | nil =>
    have hnil := sections_append_of_forall_none houter []
    rw [List.append_nil] at hnil
    rw [List.nil_append, markedIn, hnil]
    rfl
  | cons head front ih =>
    unfold markedIn at ih ⊢
    rw [List.cons_append, sections, sections]
    cases hhead : after? outer head with
    | none => exact ih
    | some title =>
      simp only [List.map_cons, ih, marked_takeWhile_append _ hinner]

end Marks

/-! ## Accounting for runs -/

/-- What the contents say of a run. -/
def entryText (run : RunResult) : String :=
  "[" ++ run.run ++ "](#" ++ Markdown.anchor run.trial run.run ++ ")"

/-- What stands over the table of a run. -/
def headingText (run : RunResult) : String :=
  run.run ++ " \x7b#" ++ Markdown.anchor run.trial run.run ++ "\x7d"

/-- What the list of failed runs says of a run. -/
def failureText (run : RunResult) : String :=
  "**" ++ run.trial ++ "/" ++ run.run ++ "**: " ++ run.error.getD ""

/-- The status in a row of the summary is that of a failed run. -/
def isFailedRow (row : String) : Bool := "| failed |".toList.isSuffixOf row.toList

/-- A text accounts for each run exactly once in each section. -/
structure AccountsFor (options : ReportOptions) (report : Report) (ordered : List RunResult)
    (text : String) : Prop where
  titles : (sectionsOf text).map (·.1) =
    ["Metadata", "Table of Contents", "Summary", "Results"] ++
      if options.includeFailed = true ∧ 0 < report.metadata.failed then ["Failed Runs"] else []
  summary : ∃ rows,
    bodyOf text "Summary" = ["", "| Trial | Run | x values | Metrics | Truncated | Status |",
      "|:---|:---|:---:|:---:|:---:|:---:|"] ++ rows ++ [""] ∧
    rows = ordered.map (fun run ↦ Markdown.summaryRow run.trial run) ∧
    rows.length = report.metadata.processed ∧ rows.countP isFailedRow = report.metadata.failed
  contents : marked "    - " (bodyOf text "Table of Contents") =
    (ordered.filter (·.isSuccess)).map entryText
  results : marked "#### " (bodyOf text "Results") =
    (ordered.filter (·.isSuccess)).map headingText
  trials : markedIn "### " "#### " (bodyOf text "Results") =
    (trialsOf (report.runs.filter (·.isSuccess))).map fun trial ↦
      (trial, ((ordered.filter (·.trial = trial)).filter (·.isSuccess)).map headingText)
  failures : options.includeFailed = true →
    marked "- " (bodyOf text "Failed Runs") =
        (report.runs.filter fun run ↦ !run.isSuccess).map failureText ∧
      (marked "- " (bodyOf text "Failed Runs")).length = report.metadata.failed

/-! ### Summary -/

theorem flatMap_map_summaryRow (runs : List RunResult) :
    ((groupByTrial runs).entries.flatMap fun (trial, results) ↦
        results.map (Markdown.summaryRow trial)) =
      (reportOrder runs).map fun run ↦ Markdown.summaryRow run.trial run := by
  rw [entries_groupByTrial, List.flatMap_map]
  conv_rhs => rw [← flatMap_trialsOf_filter, List.map_flatMap]
  apply List.flatMap_congr
  intro trial _
  apply List.map_congr_left
  intro run hrun
  rw [decide_eq_true_iff.1 (List.mem_filter.1 hrun).2]

theorem isFailedRow_summaryRow (trial : String) (run : RunResult) :
    isFailedRow (Markdown.summaryRow trial run) = !run.isSuccess := by
  unfold Markdown.summaryRow RunResult.isSuccess isFailedRow
  cases run.series with
  | none => simp [List.isSuffixOf, List.isPrefixOf]
  | some series => simp [List.isSuffixOf, List.isPrefixOf]

theorem countP_isFailedRow (runs : List RunResult) :
    ((reportOrder runs).map fun run ↦ Markdown.summaryRow run.trial run).countP isFailedRow =
      failedCount runs := by
  rw [List.countP_map, failedCount, ← (perm_reportOrder runs).countP_eq]
  apply List.countP_congr
  intro run _
  rw [Function.comp_apply, isFailedRow_summaryRow]

/-! ### Contents -/

theorem after?_contentsEntry (run : RunResult) :
    after? "    - " (Markdown.contentsEntry run) = some (entryText run) := by
  rw [after?_eq_some_iff, Markdown.contentsEntry, entryText]
  simp [← String.toList_inj]

theorem marked_contentsOfTrial (trial : String) (results : List RunResult) :
    marked "    - " (Markdown.contentsOfTrial trial results) =
      (results.filter (·.isSuccess)).map entryText := by
  have htrial : after? "    - " ("  - " ++ trial) = none := by
    simp [after?, List.dropPrefix?]
  rw [Markdown.contentsOfTrial, marked_cons_of_none htrial, marked, List.filterMap_map]
  simp only [Function.comp_def, after?_contentsEntry]
  rw [← List.filterMap_eq_map]
  rfl

/-- Walking over what passes a test trial by trial is walking over all that passes it. -/
theorem flatMap_trialsOf_filter_map (runs : List RunResult) (test : RunResult → Bool)
    (f : RunResult → String) :
    ((trialsOf runs).flatMap fun trial ↦
        (((reportOrder runs).filter (·.trial = trial)).filter test).map f) =
      ((reportOrder runs).filter test).map f := by
  rw [← List.map_flatMap, ← List.filter_flatMap, flatMap_trialsOf_filter]

theorem marked_contentsLines (runs : List RunResult) :
    marked "    - " (Markdown.contentsLines runs).tail =
      ((reportOrder runs).filter (·.isSuccess)).map entryText := by
  have hfront : marked "    - " ["", "- [Metadata](#metadata)", "- [Summary](#summary)",
      "- [Results](#results)"] = [] := by decide
  have hback : marked "    - " [""] = [] := by decide
  calc
    _ = marked "    - " ((groupByTrial runs).entries.flatMap fun (trial, results) ↦
        Markdown.contentsOfTrial trial results) := by
      rw [Markdown.contentsLines, List.cons_append, List.cons_append, List.tail_cons,
        marked_append, marked_append, hfront, hback, List.nil_append, List.append_nil]
    _ = (trialsOf runs).flatMap fun trial ↦
        (((reportOrder runs).filter (·.trial = trial)).filter (·.isSuccess)).map entryText := by
      rw [entries_groupByTrial, List.flatMap_map, marked_flatMap]
      simp only [marked_contentsOfTrial]
    _ = ((reportOrder runs).filter (·.isSuccess)).map entryText :=
      flatMap_trialsOf_filter_map runs _ _

/-! ### Results -/

theorem after?_runHeading (run : RunResult) :
    after? "#### " (Markdown.runHeading run) = some (headingText run) := by
  rw [after?_eq_some_iff, Markdown.runHeading, headingText]
  simp [← String.toList_inj]

theorem marked_runText (precision : Nat) (run : RunResult) :
    marked "#### " (Markdown.runText precision run) =
      if run.isSuccess then [headingText run] else [] := by
  unfold Markdown.runText RunResult.isSuccess
  cases run.series with
  | none => rfl
  | some series =>
    have htable : marked "#### " (Markdown.tableText precision series) = [] :=
      marked_eq_nil fun line hline ↦ Markdown.after?_eq_none_of_mem_tableText (by decide) hline
    rw [marked_cons_of_some (after?_runHeading run), marked_cons_of_none (by decide), htable]
    rfl

theorem marked_trialText (precision : Nat) (results : List RunResult) :
    marked "#### " (Markdown.trialText precision results) =
      (results.filter (·.isSuccess)).map headingText := by
  rw [Markdown.trialText, marked_cons_of_none (by decide), marked_flatMap]
  simp only [marked_runText]
  rw [Markdown.flatMap_ite_eq_flatMap_filter, List.map_eq_flatMap]

theorem trialMark_of_mem_trialText {precision : Nat} {results : List RunResult} {line : String}
    (h : line ∈ Markdown.trialText precision results) : after? "### " line = none := by
  rw [Markdown.trialText, List.mem_cons, List.mem_flatMap] at h
  rcases h with rfl | ⟨run, -, h⟩
  · decide
  · unfold Markdown.runText at h
    split at h
    · cases h
    · simp only [List.mem_cons] at h
      rcases h with rfl | rfl | h
      · simp [Markdown.runHeading, after?, List.dropPrefix?]
      · decide
      · exact Markdown.after?_eq_none_of_mem_tableText (by decide) h

theorem filter_isSuccess_eq_nil {runs : List RunResult}
    (h : ¬ runs.any (·.isSuccess) = true) : runs.filter (·.isSuccess) = [] := by
  rw [List.filter_eq_nil_iff]
  intro run hrun hsuccess
  exact h (List.any_eq_true.2 ⟨run, hrun, hsuccess⟩)

/-- The headings of the runs stand under their trials. -/
theorem markedIn_resultsText (precision : Nat) (runs : List RunResult) :
    markedIn "### " "#### " (Markdown.resultsText precision runs) =
      (trialsOf (runs.filter (·.isSuccess))).map fun trial ↦
        (trial, (((reportOrder runs).filter (·.trial = trial)).filter (·.isSuccess)).map
          headingText) := by
  unfold Markdown.resultsText
  split
  · have hfront : ∀ line ∈ [""], after? "### " line = none := by decide
    have hsections := sections_append_of_forall_none hfront
      ((trialsOf (runs.filter (·.isSuccess))).flatMap fun trial ↦
        ("### " ++ trial) ::
          Markdown.trialText precision ((reportOrder runs).filter (·.trial = trial)))
    rw [List.singleton_append] at hsections
    rw [markedIn, hsections, sections_flatMap (fun _ _ ↦ after?_eq_some_iff.2 rfl)
      (fun _ _ _ ↦ trialMark_of_mem_trialText), List.map_map]
    simp only [Function.comp_def, marked_trialText]
  · rename_i hnone
    rw [filter_isSuccess_eq_nil hnone]
    rfl

theorem marked_resultsText (precision : Nat) (runs : List RunResult) :
    marked "#### " (Markdown.resultsText precision runs) =
      ((reportOrder runs).filter (·.isSuccess)).map headingText := by
  unfold Markdown.resultsText
  rw [marked_cons_of_none (by decide)]
  split
  · have htrial (trial : String) : after? "#### " ("### " ++ trial) = none := by
      simp [after?, List.dropPrefix?]
    rw [marked_flatMap]
    simp only [marked_cons_of_none (htrial _), marked_trialText]
    rw [← filter_trialsOf, ← Markdown.flatMap_ite_eq_flatMap_filter, ← flatMap_trialsOf_filter_map]
    apply List.flatMap_congr
    intro trial _
    split
    · rfl
    · rename_i hnone
      rw [filter_isSuccess_eq_nil hnone]
      rfl
  · rename_i hnone
    have hordered : (reportOrder runs).filter (·.isSuccess) = [] := by
      have hperm := (perm_reportOrder runs).filter (·.isSuccess)
      rw [filter_isSuccess_eq_nil hnone] at hperm
      exact hperm.eq_nil
    rw [hordered]
    decide

/-! ### Failed runs -/

theorem marked_failuresText {runs : List RunResult}
    (hfailed : ∀ run ∈ runs, run.isSuccess = false → ∃ error, run.error = some error) :
    marked "- " (Markdown.failuresText runs) =
      (runs.filter fun run ↦ !run.isSuccess).map failureText := by
  have hback : marked "- " [""] = [] := by decide
  rw [Markdown.failuresText, marked_append, marked_cons_of_none (by decide), hback,
    List.append_nil, marked, List.filterMap_map, ← List.filterMap_eq_map]
  apply List.filterMap_congr
  intro run hrun
  obtain ⟨hmem, hfails⟩ := List.mem_filter.1 hrun
  obtain ⟨error, herror⟩ := hfailed run hmem (by simpa using hfails)
  rw [Function.comp_apply, Function.comp_apply, after?_eq_some_iff, Markdown.failureLine,
    failureText, herror]
  simp [← String.toList_inj]

/-! ### The whole report -/

section Parts

variable {options : ReportOptions} {generatedAt : Timestamp} {duration : Binary64}
  {runs : List RunResult} {text : String}

theorem listsFailures_iff :
    Markdown.listsFailures options runs = true ↔
      options.includeFailed = true ∧ 0 < failedCount runs := by
  simp [Markdown.listsFailures, failedCount, List.countP_pos_iff]

theorem exists_markdown_eq_ok (houtcome : ∀ run ∈ runs, run.IsOutcome)
    (hprecision : options.precision ≤ Markdown.maxPrecision) :
    ∃ text, (ofRuns generatedAt duration runs).markdown options = .ok text := by
  cases hmarkdown : (ofRuns generatedAt duration runs).markdown options with
  | ok text => exact ⟨text, rfl⟩
  | error error =>
    cases Markdown.fault_of_markdown hmarkdown with
    | precisionOutOfRange hbeyond => exact absurd hprecision hbeyond.not_ge
    | missingEntry hshort =>
      obtain ⟨run, hrun, series, hseries, hshort⟩ := hshort
      cases houtcome run hrun with
      | aligned found hfound haligned =>
        rw [hfound, Option.some.injEq] at hseries
        exact absurd (hseries ▸ hshort) haligned.not_endsEarly
      | failed error hnone _ => rw [hnone] at hseries; cases hseries

/-- The results end the text or the failed runs follow, so that the foot of the report makes no
difference. -/
theorem exists_bodyOf_results
    (h : sectionsOf text = Markdown.parts options (ofRuns generatedAt duration runs)) :
    ∃ back ∈ [[], Markdown.footerLines ++ [""]],
      bodyOf text "Results" = Markdown.resultsText options.precision runs ++ back := by
  rw [bodyOf, h]
  cases hlists : Markdown.listsFailures options runs with
  | true => exact ⟨[], by simp, by simp [Markdown.parts, ofRuns, hlists, List.lookup]⟩
  | false =>
    exact ⟨Markdown.footerLines ++ [""], by simp,
      by simp [Markdown.parts, ofRuns, hlists, List.lookup]⟩

theorem marked_bodyOf_failures (houtcome : ∀ run ∈ runs, run.IsOutcome)
    (h : sectionsOf text = Markdown.parts options (ofRuns generatedAt duration runs))
    (hinclude : options.includeFailed = true) :
    marked "- " (bodyOf text "Failed Runs") =
      (runs.filter fun run ↦ !run.isSuccess).map failureText := by
  have hfailed (run : RunResult) (hrun : run ∈ runs) (hfails : run.isSuccess = false) :
      ∃ error, run.error = some error := by
    cases houtcome run hrun with
    | aligned series hseries _ => simp [RunResult.isSuccess, hseries] at hfails
    | failed error _ herror => exact ⟨error, herror⟩
  rw [bodyOf, h]
  cases hlists : Markdown.listsFailures options runs with
  | true =>
    have hback : marked "- " (Markdown.footerLines ++ [""]) = [] := by decide
    have hbody : (Markdown.parts options (ofRuns generatedAt duration runs)).lookup "Failed Runs" =
        some (Markdown.failuresText runs ++ (Markdown.footerLines ++ [""])) := by
      simp [Markdown.parts, ofRuns, hlists, List.lookup]
    rw [hbody, Option.getD_some, marked_append, marked_failuresText hfailed, hback,
      List.append_nil]
  | false =>
    have hbody : (Markdown.parts options (ofRuns generatedAt duration runs)).lookup "Failed Runs" =
        none := by
      simp [Markdown.parts, ofRuns, hlists, List.lookup]
    have hnone : failedCount runs = 0 := by
      have hshown := (not_congr (@listsFailures_iff options runs)).1 (by simp [hlists])
      have hpos : ¬ 0 < failedCount runs := fun hpos ↦ hshown ⟨hinclude, hpos⟩
      omega
    rw [failedCount, List.countP_eq_length_filter, List.length_eq_zero_iff] at hnone
    rw [hbody, hnone]
    rfl

theorem accountsFor_of_sectionsOf (houtcome : ∀ run ∈ runs, run.IsOutcome)
    (h : sectionsOf text = Markdown.parts options (ofRuns generatedAt duration runs)) :
    AccountsFor options (ofRuns generatedAt duration runs) (reportOrder runs) text where
  titles := by
    rw [h]
    have hiff : Markdown.listsFailures options (ofRuns generatedAt duration runs).runs = true ↔
        options.includeFailed = true ∧ 0 < (ofRuns generatedAt duration runs).metadata.failed :=
      listsFailures_iff
    by_cases hlists :
        Markdown.listsFailures options (ofRuns generatedAt duration runs).runs = true
    · rw [Markdown.parts, if_pos hlists, if_pos (hiff.1 hlists)]
      rfl
    · rw [Markdown.parts, if_neg hlists, if_neg ((not_congr hiff).1 hlists)]
      rfl
  summary := by
    refine ⟨_, ?_, rfl, ?_, ?_⟩
    · rw [bodyOf, h, ← flatMap_map_summaryRow]
      simp [Markdown.parts, ofRuns, List.lookup, Markdown.summaryLines]
    · rw [List.length_map, (perm_reportOrder runs).length_eq]
      rfl
    · exact countP_isFailedRow runs
  contents := by
    rw [← marked_contentsLines, bodyOf, h]
    simp [Markdown.parts, ofRuns, List.lookup]
  results := by
    obtain ⟨back, hback, hbody⟩ := exists_bodyOf_results h
    have hnone : ∀ back ∈ [[], Markdown.footerLines ++ [""]], marked "#### " back = [] := by decide
    rw [hbody, marked_append, marked_resultsText, hnone back hback, List.append_nil]
  trials := by
    obtain ⟨back, hback, hbody⟩ := exists_bodyOf_results h
    have hnone : ∀ back ∈ [[], Markdown.footerLines ++ [""]], ∀ line ∈ back,
        after? "### " line = none ∧ after? "#### " line = none := by decide
    rw [hbody, markedIn_append (fun line hline ↦ (hnone back hback line hline).1)
      (fun line hline ↦ (hnone back hback line hline).2), markedIn_resultsText]
    rfl
  failures hinclude := by
    have hmarked := marked_bodyOf_failures houtcome h hinclude
    refine ⟨hmarked, ?_⟩
    rw [hmarked, List.length_map, ← List.countP_eq_length_filter]
    rfl

end Parts

/-- One metric at one label. -/
def singleRowSeries : Series := ⟨[.label "a"], [1], .ofList [("m", ⟨[.zero], [.zero], [1]⟩)], 2⟩

/-- Two runs of the same name, a failed run before them and a trial of which all runs failed. -/
def mixedResults : List RunResult :=
  [⟨"T2", "b.csv", "T2/b.csv", some singleRowSeries, none⟩,
   ⟨"T1", "x.csv", "T1/x.csv", none, some "no colon"⟩,
   ⟨"T2", "a.csv", "T2/a.csv", none, some "cannot be read"⟩,
   ⟨"T2", "b.csv", "other/T2/b.csv", some Series.empty, none⟩]

end Report

end TrialSeries
