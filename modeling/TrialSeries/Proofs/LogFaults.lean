import TrialSeries.Proofs.LogLines

/-!
# Faults of a run log

A log cannot be read exactly if one of its lines is bad, blank lines counted and lines before the
first settings line included. The first bad line is reported, with its number and what is wrong with
it, whatever comes after it.
-/

namespace TrialSeries

/-! ## Faults of settings -/

theorem NumberList.isFirstBadPiece_trim {separator : Char} {payload piece : List Char} :
    IsFirstBadPiece separator (Text.trim payload) piece ↔
      IsFirstBadPiece separator payload piece := by
  simp [IsFirstBadPiece, pieces]

/-- Settings lack an axis if they have too few fields or a piece that is no number literal. -/
theorem Extraction.extract_eq_error_iff {rule : Extraction} {settings : List Char} {line : Nat}
    {error : LogError} :
    rule.extract settings line = .error error ↔
      (∃ index separator, rule = .field index separator ∧
        (Text.splitOn separator (Text.trim settings)).length ≤ index ∧
        error = .missingField line (String.ofList (Text.trim settings)) index separator) ∨
      ∃ separator piece, rule = .vector separator ∧
        NumberList.IsFirstBadPiece separator settings piece ∧
        error = .invalidNumber line "settings" (String.ofList piece) := by
  cases rule with
  | field index separator =>
    simp only [extract]
    cases hfield : (Text.splitOn separator (Text.trim settings))[index]? with
    | some found =>
      have := (List.getElem?_eq_some_iff.1 hfield).1
      simp
      omega
    | none =>
      have := List.getElem?_eq_none_iff.1 hfield
      simp [this, eq_comm]
  | whole => simp [extract]
  | vector separator =>
    simp only [extract]
    rw [map_eq_error_iff, NumberList.read_eq_error_iff]
    simp [NumberList.isFirstBadPiece_trim]

namespace RunLog

/-! ## Bad lines -/

/-- A line that is not blank and has no meaning under a rule. -/
def IsBad (rule : Extraction) (line : List Char) : Prop :=
  Text.trim line ≠ [] ∧
    (':' ∉ Text.trim line ∨
      (∃ payload, Gives line settingsName payload ∧
        ∃ number error, rule.extract payload number = .error error) ∨
      ∃ name payload, Gives line name payload ∧ name ≠ settingsName ∧ Text.trim payload ≠ [] ∧
        ∃ piece ∈ NumberList.pieces ',' payload, Binary64.parse? piece = none)

/-- What is wrong with the line of a given number. -/
inductive Fault (rule : Extraction) (number : Nat) (line : List Char) : LogError → Prop where
  | noColon (hline : Text.trim line ≠ []) (hcolon : ':' ∉ Text.trim line) :
    Fault rule number line (.missingSeparator number (String.ofList (Text.trim line)))
  | noField {payload : List Char} {index : Nat} {separator : Char}
    (hgives : Gives line settingsName payload) (hrule : rule = .field index separator)
    (hindex : (Text.splitOn separator (Text.trim payload)).length ≤ index) :
    Fault rule number line
      (.missingField number (String.ofList (Text.trim payload)) index separator)
  | badPosition {payload piece : List Char} {separator : Char}
    (hgives : Gives line settingsName payload) (hrule : rule = .vector separator)
    (hpiece : NumberList.IsFirstBadPiece separator payload piece) :
    Fault rule number line (.invalidNumber number "settings" (String.ofList piece))
  | badValue {name : String} {payload piece : List Char}
    (hgives : Gives line name payload) (hname : name ≠ settingsName)
    (hpiece : NumberList.IsFirstBadPiece ',' payload piece) :
    Fault rule number line (.invalidNumber number name (String.ofList piece))

/-- A settings line is bad if the rule finds no axis in the settings. -/
theorem isBad_iff_of_settings {rule : Extraction} {line payload : List Char}
    (h : Gives line settingsName payload) :
    IsBad rule line ↔ ∃ number error, rule.extract payload number = .error error := by
  constructor
  · intro hbad
    rcases hbad.2 with hcolon | ⟨found, hfound, hfailure⟩ | ⟨name, found, hfound, hname, -⟩
    · exact absurd h.mem_colon hcolon
    · have hpayload : payload = found := (h.unique hfound).2
      rw [hpayload]
      exact hfailure
    · have hsettings : settingsName = name := (h.unique hfound).1
      exact absurd hsettings.symm hname
  · intro hfailure
    exact ⟨h.trim_ne_nil, .inr (.inl ⟨payload, h, hfailure⟩)⟩

/-- A metric line is bad if its payload is not blank and has a piece that is no number literal. -/
theorem isBad_iff_of_metric {rule : Extraction} {line payload : List Char} {name : String}
    (h : Gives line name payload) (hname : name ≠ settingsName) :
    IsBad rule line ↔ Text.trim payload ≠ [] ∧
      ∃ piece ∈ NumberList.pieces ',' payload, Binary64.parse? piece = none := by
  constructor
  · intro hbad
    rcases hbad.2 with hcolon | ⟨found, hfound, -⟩ | ⟨other, found, hfound, -, hpieces⟩
    · exact absurd h.mem_colon hcolon
    · exact absurd (h.unique hfound).1 hname
    · have hpayload : payload = found := (h.unique hfound).2
      rw [hpayload]
      exact hpieces
  · intro hpieces
    exact ⟨h.trim_ne_nil, .inr (.inr ⟨name, payload, h, hname, hpieces⟩)⟩

theorem isBad_iff {rule : Extraction} {line : List Char} (number : Nat) :
    IsBad rule line ↔ ∃ error, readLine rule number line = .error error := by
  rcases line_cases line with hblank | ⟨hline, hcolon⟩ | ⟨payload, hgives⟩ |
    ⟨name, payload, hgives, hname⟩
  · simp [IsBad, hblank, readLine_of_blank]
  · simp [IsBad, hline, hcolon, readLine_of_no_colon]
  · rw [isBad_iff_of_settings hgives, readLine_of_settings hgives,
      Extraction.exists_extract_eq_error_iff number]
    simp only [map_eq_error_iff]
  · rw [isBad_iff_of_metric hgives hname, readLine_of_metric hgives hname,
      ← @NumberList.exists_read_eq_error_iff ',' name number]
    simp only [map_eq_error_iff]

/-- A line fails to be read exactly with what is wrong with it. -/
theorem readLine_eq_error_iff {rule : Extraction} {number : Nat} {line : List Char}
    {error : LogError} :
    readLine rule number line = .error error ↔ Fault rule number line error := by
  constructor
  · intro h
    rcases line_cases line with hblank | ⟨hline, hcolon⟩ | ⟨payload, hgives⟩ |
      ⟨name, payload, hgives, hname⟩
    · rw [readLine_of_blank hblank] at h
      cases h
    · rw [readLine_of_no_colon hline hcolon] at h
      cases h
      exact .noColon hline hcolon
    · rw [readLine_of_settings hgives, map_eq_error_iff, Extraction.extract_eq_error_iff] at h
      rcases h with ⟨index, separator, hrule, hindex, rfl⟩ | ⟨separator, piece, hrule, hpiece, rfl⟩
      · exact .noField hgives hrule hindex
      · exact .badPosition hgives hrule hpiece
    · rw [readLine_of_metric hgives hname, map_eq_error_iff, NumberList.read_eq_error_iff] at h
      obtain ⟨piece, hpiece, rfl⟩ := h
      exact .badValue hgives hname hpiece
  · intro h
    cases h with
    | noColon hline hcolon => exact readLine_of_no_colon hline hcolon
    | noField hgives hrule hindex =>
      rw [readLine_of_settings hgives, map_eq_error_iff, Extraction.extract_eq_error_iff]
      exact .inl ⟨_, _, hrule, hindex, rfl⟩
    | badPosition hgives hrule hpiece =>
      rw [readLine_of_settings hgives, map_eq_error_iff, Extraction.extract_eq_error_iff]
      exact .inr ⟨_, _, hrule, hpiece, rfl⟩
    | badValue hgives hname hpiece =>
      rw [readLine_of_metric hgives hname, map_eq_error_iff, NumberList.read_eq_error_iff]
      exact ⟨_, hpiece, rfl⟩

/-! ## The first bad line -/

/-- The lines of a log are read one after the other, up to the first bad one. -/
theorem readLines_eq_error_iff {rule : Extraction} {number : Nat} {lines : List (List Char)}
    {error : LogError} :
    readLines rule number lines = .error error ↔
      ∃ place line, IsFirst (IsBad rule) lines place line ∧
        Fault rule (number + place) line error := by
  induction lines generalizing number with
  | nil => simp [readLines, IsFirst]
  | cons line rest ih =>
    rw [exists_isFirst_cons, readLines]
    cases hline : readLine rule number line with
    | error found =>
      have hbad : IsBad rule line := (isBad_iff number).2 ⟨found, hline⟩
      simp [hbad, ← readLine_eq_error_iff, hline]
    | ok entry =>
      have hgood : ¬ IsBad rule line := by
        rw [isBad_iff number, hline]
        simp
      simp [hgood, ih, Nat.add_assoc, Nat.add_comm 1]

/-- A log fails to be read exactly if it has a bad line, with the fault of the first one, and so
does every log that has the same lines up to it. -/
theorem parseLines_eq_error_iff_first_fault (rule : Extraction) (lines : List (List Char)) :
    ((∃ error, parseLines rule lines = .error error) ↔ ∃ line ∈ lines, IsBad rule line) ∧
      ∀ error, parseLines rule lines = .error error ↔
        ∃ place line, IsFirst (IsBad rule) lines place line ∧ Fault rule (place + 1) line error ∧
          ∀ others : List (List Char), others.take (place + 1) = lines.take (place + 1) →
            parseLines rule others = .error error := by
  have hparse (lines : List (List Char)) (error : LogError) :
      parseLines rule lines = .error error ↔
        ∃ place line, IsFirst (IsBad rule) lines place line ∧
          Fault rule (place + 1) line error := by
    simp only [parseLines, map_eq_error_iff, readLines_eq_error_iff, Nat.add_comm 1]
  refine ⟨?_, fun error ↦ ⟨fun h ↦ ?_, ?_⟩⟩
  · simp only [hparse, ← exists_isFirst_iff]
    constructor
    · intro h
      rcases h with ⟨error, place, line, hfirst, -⟩
      exact ⟨place, line, hfirst⟩
    · intro h
      rcases h with ⟨place, line, hfirst⟩
      obtain ⟨error, herror⟩ := (isBad_iff (place + 1)).1 hfirst.2.1
      exact ⟨error, place, line, hfirst, readLine_eq_error_iff.1 herror⟩
  · obtain ⟨place, line, hfirst, hfault⟩ := (hparse lines error).1 h
    refine ⟨place, line, hfirst, hfault, ?_⟩
    intro others htake
    exact (hparse others error).2 ⟨place, line, hfirst.of_take_eq htake, hfault⟩
  · intro h
    rcases h with ⟨place, line, hfirst, hfault, -⟩
    exact (hparse lines error).2 ⟨place, line, hfirst, hfault⟩

/-- A metric line before the first settings line is read although it belongs to no block. -/
example : parseLines .whole (["", "m: 1, x ,y", "junk"].map String.toList) =
    .error (.invalidNumber 2 "m" "x") := rfl

end RunLog

end TrialSeries
