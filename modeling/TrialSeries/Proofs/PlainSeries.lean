import TrialSeries.Proofs.ReportLines

/-!
# Texts from logs

The metric names and the labels in the series of a log are parts of its lines. So none of them has a
line feed, and each line of a table of the series is one line of its text.
-/

namespace TrialSeries

/-! ## Parts of lines -/

namespace Text

theorem newline_notMem_of_mem_linesOfPieces {pieces : List (List Char)}
    (h : ∀ piece ∈ pieces, '\n' ∉ piece) : ∀ line ∈ linesOfPieces pieces, '\n' ∉ line := by
  induction pieces with
  | nil => simp [linesOfPieces]
  | cons piece rest ih =>
    obtain ⟨hpiece, hrest⟩ := List.forall_mem_cons.1 h
    cases rest with
    | nil =>
      rw [linesOfPieces]
      split
      · simp
      · simpa using hpiece
    | cons second rest =>
      have hdropped : dropCarriageReturn piece ⊆ piece := by
        unfold dropCarriageReturn
        split
        · exact List.dropLast_subset _
        · exact List.Subset.refl _
      rw [linesOfPieces, List.forall_mem_cons]
      · exact ⟨fun hmem ↦ hpiece (hdropped hmem), ih hrest⟩
      · simp

theorem newline_notMem_of_mem_lines {chars line : List Char} (h : line ∈ lines chars) :
    '\n' ∉ line :=
  newline_notMem_of_mem_linesOfPieces (fun _ ↦ notMem_of_mem_splitOn) line h

end Text

/-- A label is a part of the settings from which it is extracted. -/
theorem Extraction.subset_of_extract_label {rule : Extraction} {settings : List Char} {line : Nat}
    {text : String} (h : rule.extract settings line = .ok (.point (.label text))) :
    text.toList ⊆ settings := by
  have htrim := Text.trim_subset settings
  cases rule with
  | field index separator =>
    simp only [extract] at h
    cases hfield : (Text.splitOn separator (Text.trim settings))[index]? with
    | none => simp [hfield] at h
    | some found =>
      have hfound := Text.subset_of_mem_splitOn (List.mem_of_getElem? hfield)
      simp only [hfield, Except.ok.injEq, Axis.point.injEq, Setting.ofField] at h
      split at h
      · cases h
      · cases h
        rw [String.toList_ofList]
        exact List.Subset.trans (Text.trim_subset found) (List.Subset.trans hfound htrim)
  | whole =>
    cases h
    rwa [String.toList_ofList]
  | vector separator =>
    simp only [extract] at h
    cases hread : NumberList.read separator "settings" line (Text.trim settings) with
    | error error => rw [hread] at h; cases h
    | ok values => rw [hread] at h; cases h

namespace RunLog

theorem Gives.subset {line : List Char} {name : String} {payload : List Char}
    (h : Gives line name payload) : name.toList ⊆ line ∧ payload ⊆ line := by
  have hline := Text.trim_subset line
  rw [h.1, List.append_subset, List.cons_subset] at hline
  exact ⟨hline.1, hline.2.2⟩

section Blocks

variable {rule : Extraction} {text : String} {blocks : List Block}

/-- The label of a block is part of a line. -/
theorem exists_line_of_label (h : parse rule text = .ok blocks) {block : Block}
    (hblock : block ∈ blocks) {label : String} (haxis : block.axis = .point (.label label)) :
    ∃ line ∈ Text.lines text.toList, label.toList ⊆ line := by
  obtain ⟨settings, hsettings, hextract⟩ :=
    exists_mem_of_forall₂_right (forall₂_settingsOf h) hblock
  obtain ⟨line, hline, hgives⟩ := List.mem_filterMap.1 hsettings
  have hlabel := Extraction.subset_of_extract_label (haxis ▸ hextract 0)
  exact ⟨line, hline, List.Subset.trans hlabel (settings?_eq_some_iff.1 hgives).subset.2⟩

/-- The name of a metric is part of a line. -/
theorem exists_line_of_name (h : parse rule text = .ok blocks) {block : Block}
    (hblock : block ∈ blocks) {name : String} (hname : name ∈ block.metrics.keys) :
    ∃ line ∈ Text.lines text.toList, name.toList ⊆ line := by
  obtain ⟨entries, hentries, rfl⟩ := parseLines_eq_ok_iff.1 h
  rw [blocksOf_eq_map_sections, List.mem_map] at hblock
  obtain ⟨part, hpart, rfl⟩ := hblock
  obtain ⟨reading, hreading, rfl⟩ : ∃ reading ∈ readings part.2, reading.1 = name := by
    rw [blockOf, Block.mem_keys_recordAll] at hname
    simpa [Block.start, SortedMap.mem_keys_iff] using hname
  obtain ⟨entry, hentry, hrecords⟩ := List.mem_filterMap.1 hreading
  obtain ⟨line, hline, hmeans⟩ :=
    exists_mem_of_forall₂_right hentries (subset_of_mem_sections hpart hentry)
  cases hmeans with
  | blank => cases hrecords
  | opens => cases hrecords
  | records hrecorded =>
    cases hrecords
    obtain ⟨payload, hgives, -⟩ := hrecorded
    exact ⟨line, hline, hgives.subset.1⟩

end Blocks

end RunLog

/-! ## Texts of a series -/

namespace Aggregation

theorem label_mem_keys_group_iff {blocks : List Block} {width : Nat} {label : String} :
    .label label ∈ (group (blocks.flatMap (observations width))).keys ↔
      ∃ block ∈ blocks, block.axis = .point (.label label) := by
  have haxis (block : Block) : (∃ observation ∈ observations width block,
      observation.setting = .label label) ↔ block.axis = .point (.label label) := by
    unfold observations
    cases block.axis with
    | point setting => simp
    | positions values => simp [positionAt, Setting.ofNumber]
  rw [mem_keys_group]
  constructor
  · intro h
    obtain ⟨observation, hmem, hsetting⟩ := h
    obtain ⟨block, hblock, hobserved⟩ := List.mem_flatMap.1 hmem
    exact ⟨block, hblock, (haxis block).1 ⟨observation, hobserved, hsetting⟩⟩
  · intro h
    obtain ⟨block, hblock, hlabel⟩ := h
    obtain ⟨observation, hobserved, hsetting⟩ := (haxis block).2 hlabel
    exact ⟨observation, List.mem_flatMap.2 ⟨block, hblock, hobserved⟩, hsetting⟩

end Aggregation

namespace Series

variable {alignment : Alignment} {blocks : List Block} {series : Series}

/-- A series has the labels of its blocks. -/
theorem label_mem_settings_iff (h : Series.ofBlocks alignment blocks = .ok series)
    {label : String} :
    .label label ∈ series.settings ↔ ∃ block ∈ blocks, block.axis = .point (.label label) := by
  by_cases hne : blocks = []
  · subst hne
    cases h
    simp [Series.empty]
  · obtain ⟨hcheck, rfl⟩ := (ofBlocks_eq_ok_iff hne).1 h
    obtain ⟨truncated, hcollect⟩ :=
      Aggregation.exists_collect_eq_seriesOf (Aggregation.check_eq_ok_iff.1 hcheck).2.1
    rw [hcollect]
    exact Aggregation.label_mem_keys_group_iff

theorem exists_block_of_mem_keys (h : Series.ofBlocks alignment blocks = .ok series)
    {name : String} (hname : name ∈ series.metrics.keys) :
    ∃ block ∈ blocks, name ∈ block.metrics.keys := by
  by_cases hne : blocks = []
  · subst hne
    cases h
    cases hname
  · cases hempty : series.isEmpty with
    | true =>
      rw [metrics_eq_empty h hempty] at hname
      cases hname
    | false => exact (mem_keys_ofBlocks_iff hne h hempty name).1 hname

/-- No text in the series of a log has a line feed. -/
theorem isPlain_ofBlocks {rule : Extraction} {text : String}
    (hparse : RunLog.parse rule text = .ok blocks)
    (h : Series.ofBlocks alignment blocks = .ok series) : series.IsPlain where
  label label hlabel := by
    obtain ⟨block, hblock, haxis⟩ := (label_mem_settings_iff h).1 hlabel
    obtain ⟨line, hline, hsubset⟩ := RunLog.exists_line_of_label hparse hblock haxis
    exact fun hmem ↦ Text.newline_notMem_of_mem_lines hline (hsubset hmem)
  name name hname := by
    obtain ⟨block, hblock, hname⟩ := exists_block_of_mem_keys h hname
    obtain ⟨line, hline, hsubset⟩ := RunLog.exists_line_of_name hparse hblock hname
    exact fun hmem ↦ Text.newline_notMem_of_mem_lines hline (hsubset hmem)

end Series

end TrialSeries
