import TrialSeries.Proofs.LogLines
import TrialSeries.Proofs.Recording
import TrialSeries.Proofs.Sections

/-!
# Sections of a run log

A log that can be read has one block for each settings line, and a block holds what the metric lines
record that stand between its settings line and the next one. Metric lines before the first settings
line belong to no block; they are counted, and a warning gives their number.
-/

namespace TrialSeries.RunLog

/-! ## What lines mean -/

/-- The settings that a line gives, if it opens a block. -/
def settings? (line : List Char) : Option (List Char) :=
  (Text.cutAt ':' (Text.trim line)).bind fun (name, payload) ↦
    if String.ofList name = settingsName then some payload else none

/-- A line that is neither blank nor opens a block. -/
def isMetricLine (line : List Char) : Bool :=
  !(Text.trim line).isEmpty && (settings? line).isNone

/-- A line records some values under a name. -/
def Records (line : List Char) (reading : String × List Binary64) : Prop :=
  ∃ payload, Gives line reading.1 payload ∧
    ∀ number, NumberList.read ',' reading.1 number payload = .ok reading.2

/-- The meaning of a line under a rule. -/
inductive Means (rule : Extraction) (line : List Char) : Entry → Prop where
  | blank (hline : Text.trim line = []) : Means rule line .blank
  | opens {payload : List Char} {axis : Axis} (hgives : Gives line settingsName payload)
    (haxis : ∀ number, rule.extract payload number = .ok axis) : Means rule line (.opens axis)
  | records {name : String} {values : List Binary64} (hrecords : Records line (name, values))
    (hname : name ≠ settingsName) : Means rule line (.records name values)

theorem settings?_eq_some_iff {line payload : List Char} :
    settings? line = some payload ↔ Gives line settingsName payload := by
  constructor
  · intro h
    obtain ⟨⟨name, found⟩, hcut, hfound⟩ := Option.bind_eq_some_iff.1 h
    obtain ⟨hname, rfl⟩ : String.ofList name = settingsName ∧ found = payload := by
      simpa using hfound
    rw [← hname]
    simpa [Gives] using Text.cutAt_eq_some_iff.1 hcut
  · intro h
    simp [settings?, h.cutAt_eq]

theorem settings?_eq_none_of_metric {line : List Char} {name : String} {payload : List Char}
    (h : Gives line name payload) (hname : name ≠ settingsName) : settings? line = none := by
  rw [Option.eq_none_iff_forall_ne_some]
  intro found hfound
  exact hname (h.unique (settings?_eq_some_iff.1 hfound)).1

variable {rule : Extraction} {number : Nat} {line : List Char} {entry : Entry}

theorem means_of_readLine (h : readLine rule number line = .ok entry) : Means rule line entry := by
  rcases line_cases line with hblank | ⟨hline, hcolon⟩ | ⟨payload, hgives⟩ |
    ⟨name, payload, hgives, hname⟩
  · rw [readLine_of_blank hblank] at h
    cases h
    exact .blank hblank
  · rw [readLine_of_no_colon hline hcolon] at h
    cases h
  · rw [readLine_of_settings hgives, map_eq_ok_iff] at h
    obtain ⟨axis, haxis, rfl⟩ := h
    exact .opens hgives (Extraction.extract_eq_ok_congr haxis)
  · rw [readLine_of_metric hgives hname, map_eq_ok_iff] at h
    obtain ⟨values, hvalues, rfl⟩ := h
    exact .records ⟨payload, hgives, NumberList.read_eq_ok_congr hvalues⟩ hname

theorem readLine_of_means (h : Means rule line entry) (number : Nat) :
    readLine rule number line = .ok entry := by
  cases h with
  | blank hline => exact readLine_of_blank hline
  | opens hgives haxis => rw [readLine_of_settings hgives, haxis number]; rfl
  | records hrecords hname =>
    obtain ⟨payload, hgives, hvalues⟩ := hrecords
    rw [readLine_of_metric hgives hname, hvalues number]
    rfl

/-- Lines are read as entries if each line means its entry, wherever the lines begin. -/
theorem readLines_eq_ok_iff {lines : List (List Char)} {entries : List Entry} :
    readLines rule number lines = .ok entries ↔ List.Forall₂ (Means rule) lines entries := by
  induction lines generalizing number entries with
  | nil => simp [readLines, eq_comm]
  | cons line rest ih =>
    rw [readLines, List.forall₂_cons_left_iff]
    constructor
    · intro h
      cases hline : readLine rule number line with
      | error error => simp [hline] at h
      | ok entry =>
        simp only [hline, map_eq_ok_iff] at h
        obtain ⟨found, hfound, rfl⟩ := h
        exact ⟨entry, found, means_of_readLine hline, ih.1 hfound, rfl⟩
    · intro h
      rcases h with ⟨entry, found, hentry, hfound, rfl⟩
      simp [readLine_of_means hentry number, ih.2 hfound]

/-! ## What entries amount to -/

/-- The axis of the block that an entry opens. -/
def Entry.axis? : Entry → Option Axis
  | .opens axis => some axis
  | _ => none

/-- The values that an entry records, under their name. -/
def Entry.reading? : Entry → Option (String × List Binary64)
  | .records name values => some (name, values)
  | _ => none

/-- The readings among some entries. -/
def readings (entries : List Entry) : List (String × List Binary64) :=
  entries.filterMap Entry.reading?

/-- The readings before the first block is opened. -/
def orphanReadings (entries : List Entry) : List (String × List Binary64) :=
  readings (entries.takeWhile fun entry ↦ entry.axis?.isNone)

/-- The block that is opened with an axis and followed by some entries. -/
def blockOf (part : Axis × List Entry) : Block := (Block.start part.1).recordAll (readings part.2)

/-- While a block is open, readings go to it until the next block is opened, and each later section
gives a block of its own. -/
theorem foldl_step_of_open (entries : List Entry) (block : Block) (earlier : List Block)
    (orphans : Nat) :
    entries.foldl Progress.step ⟨block :: earlier, orphans⟩ =
      ⟨((sections Entry.axis? entries).map blockOf).reverse ++
        block.recordAll (orphanReadings entries) :: earlier, orphans⟩ := by
  induction entries generalizing block earlier with
  | nil => rfl
  | cons entry rest ih =>
    rw [List.foldl_cons]
    cases entry with
    | blank => exact ih block earlier
    | records name values => exact ih (block.record name values) earlier
    | opens axis =>
      have hsections : sections Entry.axis? (.opens axis :: rest) =
          (axis, rest.takeWhile fun entry ↦ entry.axis?.isNone) :: sections Entry.axis? rest := rfl
      have hnew : (Block.start axis).recordAll (orphanReadings rest) =
          blockOf (axis, rest.takeWhile fun entry ↦ entry.axis?.isNone) := rfl
      have hold : block.recordAll (orphanReadings (.opens axis :: rest)) = block := rfl
      calc
        rest.foldl Progress.step ⟨Block.start axis :: block :: earlier, orphans⟩ =
            ⟨((sections Entry.axis? rest).map blockOf).reverse ++
              (Block.start axis).recordAll (orphanReadings rest) :: block :: earlier, orphans⟩ :=
          ih (Block.start axis) (block :: earlier)
        _ = ⟨((sections Entry.axis? (.opens axis :: rest)).map blockOf).reverse ++
              block.recordAll (orphanReadings (.opens axis :: rest)) :: earlier, orphans⟩ := by
          rw [hsections, hnew, hold]
          simp

/-- Readings before the first block are counted, and each section gives a block. -/
theorem foldl_step_of_none_open (entries : List Entry) (orphans : Nat) :
    entries.foldl Progress.step ⟨[], orphans⟩ =
      ⟨((sections Entry.axis? entries).map blockOf).reverse,
        orphans + (orphanReadings entries).length⟩ := by
  induction entries generalizing orphans with
  | nil => rfl
  | cons entry rest ih =>
    rw [List.foldl_cons]
    cases entry with
    | blank => exact ih orphans
    | records name values =>
      have hsections : sections Entry.axis? (.records name values :: rest) =
          sections Entry.axis? rest := rfl
      have horphans : orphanReadings (.records name values :: rest) =
          (name, values) :: orphanReadings rest := rfl
      have hlength : orphans + (orphanReadings (.records name values :: rest)).length =
          orphans + 1 + (orphanReadings rest).length := by
        rw [horphans, List.length_cons]
        omega
      rw [hsections, hlength]
      exact ih (orphans + 1)
    | opens axis =>
      have hsections : sections Entry.axis? (.opens axis :: rest) =
          (axis, rest.takeWhile fun entry ↦ entry.axis?.isNone) :: sections Entry.axis? rest := rfl
      rw [hsections, List.map_cons, List.reverse_cons]
      exact foldl_step_of_open rest (Block.start axis) [] orphans

theorem blocksOf_eq_map_sections (entries : List Entry) :
    blocksOf entries = (sections Entry.axis? entries).map blockOf := by
  rw [blocksOf, progressOf, foldl_step_of_none_open]
  simp

theorem orphans_progressOf (entries : List Entry) :
    (progressOf entries).orphans = (orphanReadings entries).length := by
  rw [progressOf, foldl_step_of_none_open]
  simp

/-! ## Lines and entries side by side -/

/-- A line opens a block exactly if its entry does, with the axis that the rule extracts. -/
theorem Means.rel_settings? (h : Means rule line entry) :
    Option.Rel (fun settings axis ↦ ∀ number, rule.extract settings number = .ok axis)
      (settings? line) entry.axis? := by
  cases h with
  | blank hline =>
    have hnone : settings? line = none := by simp [settings?, hline, Text.cutAt]
    rw [hnone]
    exact .none
  | opens hgives haxis =>
    rw [settings?_eq_some_iff.2 hgives]
    exact .some haxis
  | records hrecords hname =>
    obtain ⟨payload, hgives, -⟩ := hrecords
    rw [settings?_eq_none_of_metric hgives hname]
    exact .none

theorem Means.isNone_settings? (h : Means rule line entry) :
    (settings? line).isNone = entry.axis?.isNone := by
  have hrel := h.rel_settings?
  cases hline : settings? line <;> cases hentry : entry.axis? <;> simp_all

/-- The metric lines among some lines are those that record the readings among their entries. -/
theorem forall₂_records {lines : List (List Char)} {entries : List Entry}
    (h : List.Forall₂ (Means rule) lines entries) :
    List.Forall₂ Records (lines.filter isMetricLine) (readings entries) := by
  induction h with
  | nil => exact .nil
  | @cons line entry lines entries hline _ ih =>
    cases hline with
    | blank hblank =>
      rw [List.filter_cons_of_neg (by simp [isMetricLine, hblank])]
      exact ih
    | opens hgives haxis =>
      rw [List.filter_cons_of_neg (by simp [isMetricLine, settings?_eq_some_iff.2 hgives])]
      exact ih
    | records hrecords hname =>
      have hmetric : isMetricLine line = true := by
        obtain ⟨payload, hgives, -⟩ := hrecords
        simp [isMetricLine, hgives.trim_ne_nil, settings?_eq_none_of_metric hgives hname]
      rw [List.filter_cons_of_pos hmetric]
      exact .cons hrecords ih

/-! ## Blocks and sections -/

/-- The metric lines before the first settings line. -/
def orphanLines (lines : List (List Char)) : List (List Char) :=
  (lines.takeWhile fun line ↦ (settings? line).isNone).filter isMetricLine

/-- A block is what the settings of a section say and what the metric lines of the section record,
taken together name by name. -/
structure IsBlockOf (rule : Extraction) (part : List Char × List (List Char)) (block : Block) :
    Prop where
  axis : ∀ number, rule.extract part.1 number = .ok block.axis
  metrics : ∃ found, List.Forall₂ Records (part.2.filter isMetricLine) found ∧
    block = (Block.start block.axis).recordAll found ∧
    (∀ name, name ∈ block.metrics.keys ↔ ∃ reading ∈ found, reading.1 = name) ∧
    ∀ name, block.valuesOf name = (found.filter (·.1 = name)).flatMap (·.2)

theorem isBlockOf_blockOf {lines : List (List Char)} {settings : List Char} {axis : Axis}
    {entries : List Entry} (haxis : ∀ number, rule.extract settings number = .ok axis)
    (h : List.Forall₂ (Means rule) lines entries) :
    IsBlockOf rule (settings, lines) (blockOf (axis, entries)) where
  axis := by simpa [blockOf, Block.start] using haxis
  metrics := by
    refine ⟨readings entries, forall₂_records h, ?_, fun name ↦ ?_, fun name ↦ ?_⟩
    · simp [blockOf, Block.start]
    · rw [blockOf, Block.mem_keys_recordAll]
      simp [Block.start, SortedMap.mem_keys_iff]
    · rw [blockOf, Block.valuesOf_recordAll]
      simp [Block.start, Block.valuesOf]

theorem parseLines_eq_ok_iff {lines : List (List Char)} {blocks : List Block} :
    parseLines rule lines = .ok blocks ↔
      ∃ entries, List.Forall₂ (Means rule) lines entries ∧ blocksOf entries = blocks := by
  simp only [parseLines, map_eq_ok_iff, readLines_eq_ok_iff]

/-- A log that can be read has one block for each settings line, which holds what the lines up to
the next settings line record. The lines before the first settings line add nothing to the blocks,
and a warning counts the metric lines among them if there are any. -/
theorem parseLines_eq_ok_blocks_of_sections {rule : Extraction} {lines : List (List Char)}
    {blocks : List Block} (h : parseLines rule lines = .ok blocks) :
    (sections settings? lines).map (·.1) = lines.filterMap settings? ∧
      List.Forall₂ (IsBlockOf rule) (sections settings? lines) blocks ∧
      parseLines rule (lines.dropWhile fun line ↦ (settings? line).isNone) = .ok blocks ∧
      (lineEvents rule lines).filter (·.level = .warn) =
        if orphanLines lines = [] then []
        else [⟨.warn, "Skipped " ++ toString (orphanLines lines).length ++
          " metric line(s) appearing before the first settings line"⟩] := by
  obtain ⟨entries, hentries, rfl⟩ := parseLines_eq_ok_iff.1 h
  have hsections := forall₂_sections hentries fun _ _ ↦ Means.rel_settings?
  have hfront := forall₂_takeWhile hentries fun _ _ ↦ Means.isNone_settings?
  have hrest := forall₂_dropWhile hentries fun _ _ ↦ Means.isNone_settings?
  refine ⟨map_fst_sections settings? lines, ?_, ?_, ?_⟩
  · rw [blocksOf_eq_map_sections, List.forall₂_map_right_iff]
    apply hsections.imp
    intro part found hpart
    exact isBlockOf_blockOf hpart.1 hpart.2
  · apply parseLines_eq_ok_iff.2
    refine ⟨_, hrest, ?_⟩
    rw [blocksOf_eq_map_sections, blocksOf_eq_map_sections, sections_dropWhile]
  · have hlength : (progressOf entries).orphans = (orphanLines lines).length := by
      rw [orphans_progressOf]
      exact (forall₂_records hfront).length_eq.symm
    have hread : readLines rule 1 lines = .ok entries := readLines_eq_ok_iff.2 hentries
    simp only [lineEvents, hread, eventsOf, hlength, List.length_eq_zero_iff]
    split <;> simp

/-- A log with an orphan, a colon in its settings, a blank line and a metric in two pieces. -/
def piecewiseLog : List (List Char) :=
  ["m:9", "settings: a:b", "m:1,2", " ", "n:", "m:3", "settings:A"].map String.toList

theorem sections_piecewiseLog :
    ∃ blocks, parseLines .whole piecewiseLog = .ok blocks ∧
      blocks.map (·.axis) = [.point (.label "a:b"), .point (.label "A")] ∧
      List.Forall₂ (IsBlockOf .whole) (sections settings? piecewiseLog) blocks ∧
      (lineEvents .whole piecewiseLog).filter (·.level = .warn) =
        [⟨.warn, "Skipped 1 metric line(s) appearing before the first settings line"⟩] := by
  obtain ⟨-, hblocks, -, hwarnings⟩ :=
    @parseLines_eq_ok_blocks_of_sections .whole piecewiseLog _ rfl
  exact ⟨_, rfl, rfl, hblocks, hwarnings⟩

end TrialSeries.RunLog
