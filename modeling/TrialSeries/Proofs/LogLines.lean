import TrialSeries.Proofs.NumberReading
import TrialSeries.Proofs.TextPieces
import TrialSeries.RunLog

/-!
# Lines of a run log

A line of a log is blank, or lacks a colon, or gives a payload under a name, which is the settings
name or the name of a metric. Each kind has one equation that says how it is read; the number of the
line changes the report of a failure and nothing else.
-/

namespace TrialSeries

/-! ## Extraction -/

theorem Extraction.extract_atLine (rule : Extraction) (settings : List Char) (line other : Nat) :
    rule.extract settings other =
      (rule.extract settings line).mapError (LogError.atLine other) := by
  cases rule with
  | field index separator =>
    simp only [extract]
    cases (Text.splitOn separator (Text.trim settings))[index]? <;> rfl
  | whole => rfl
  | vector separator =>
    simp only [extract]
    rw [NumberList.read_atLine separator "settings" line other]
    cases NumberList.read separator "settings" line (Text.trim settings) <;> rfl

/-- The axis in some settings does not depend on the line on which they stand. -/
theorem Extraction.extract_eq_ok_congr {rule : Extraction} {settings : List Char} {line : Nat}
    {axis : Axis} (h : rule.extract settings line = .ok axis) (other : Nat) :
    rule.extract settings other = .ok axis := by
  rw [rule.extract_atLine settings line other, h]
  rfl

theorem Extraction.exists_extract_eq_error_iff {rule : Extraction} {settings : List Char}
    (line : Nat) :
    (∃ number error, rule.extract settings number = .error error) ↔
      ∃ error, rule.extract settings line = .error error := by
  constructor
  · intro h
    obtain ⟨number, error, herror⟩ := h
    rw [rule.extract_atLine settings number line, herror]
    exact ⟨error.atLine line, rfl⟩
  · intro h
    exact ⟨line, h⟩

namespace RunLog

/-! ## Kinds of lines -/

/-- A line gives a payload under a name, which ends at the first colon. -/
def Gives (line : List Char) (name : String) (payload : List Char) : Prop :=
  Text.trim line = name.toList ++ ':' :: payload ∧ ':' ∉ name.toList

theorem Gives.cutAt_eq {line : List Char} {name : String} {payload : List Char}
    (h : Gives line name payload) :
    Text.cutAt ':' (Text.trim line) = some (name.toList, payload) := by
  rw [h.1]
  exact Text.cutAt_append_cons h.2 payload

theorem Gives.trim_ne_nil {line : List Char} {name : String} {payload : List Char}
    (h : Gives line name payload) : Text.trim line ≠ [] := by
  simp [h.1]

theorem Gives.mem_colon {line : List Char} {name : String} {payload : List Char}
    (h : Gives line name payload) : ':' ∈ Text.trim line := by
  simp [h.1]

/-- A line gives at most one payload, and it does so under one name. -/
theorem Gives.unique {line : List Char} {name other : String} {payload found : List Char}
    (h : Gives line name payload) (hother : Gives line other found) :
    name = other ∧ payload = found := by
  have hcut := h.cutAt_eq.symm.trans hother.cutAt_eq
  simpa [String.toList_inj] using hcut

theorem line_cases (line : List Char) :
    Text.trim line = [] ∨ (Text.trim line ≠ [] ∧ ':' ∉ Text.trim line) ∨
      (∃ payload, Gives line settingsName payload) ∨
      ∃ name payload, Gives line name payload ∧ name ≠ settingsName := by
  by_cases hblank : Text.trim line = []
  · exact .inl hblank
  · refine .inr ?_
    cases hcut : Text.cutAt ':' (Text.trim line) with
    | none => exact .inl ⟨hblank, Text.cutAt_eq_none_iff.1 hcut⟩
    | some pieces =>
      obtain ⟨name, payload⟩ := pieces
      have hgives : Gives line (String.ofList name) payload := by
        simpa [Gives] using Text.cutAt_eq_some_iff.1 hcut
      by_cases hname : String.ofList name = settingsName
      · exact .inr (.inl ⟨payload, hname ▸ hgives⟩)
      · exact .inr (.inr ⟨String.ofList name, payload, hgives, hname⟩)

/-! ## Reading one line -/

variable {rule : Extraction} {number : Nat} {line : List Char}

theorem readLine_of_blank (h : Text.trim line = []) : readLine rule number line = .ok .blank := by
  simp [readLine, h]

theorem readLine_of_no_colon (h : Text.trim line ≠ []) (hcolon : ':' ∉ Text.trim line) :
    readLine rule number line =
      .error (.missingSeparator number (String.ofList (Text.trim line))) := by
  simp [readLine, h, Text.cutAt_eq_none_iff.2 hcolon]

theorem readLine_of_settings {payload : List Char} (h : Gives line settingsName payload) :
    readLine rule number line = (rule.extract payload number).map .opens := by
  simp [readLine, h.trim_ne_nil, h.cutAt_eq]

theorem readLine_of_metric {name : String} {payload : List Char} (h : Gives line name payload)
    (hname : name ≠ settingsName) :
    readLine rule number line =
      (NumberList.read ',' name number payload).map (.records name) := by
  simp [readLine, h.trim_ne_nil, h.cutAt_eq, hname]

theorem readLine_atLine (rule : Extraction) (number other : Nat) (line : List Char) :
    readLine rule other line =
      (readLine rule number line).mapError (LogError.atLine other) := by
  rcases line_cases line with hblank | ⟨hline, hcolon⟩ | ⟨payload, hgives⟩ |
    ⟨name, payload, hgives, hname⟩
  · rw [readLine_of_blank hblank, readLine_of_blank hblank]
    rfl
  · rw [readLine_of_no_colon hline hcolon, readLine_of_no_colon hline hcolon]
    rfl
  · rw [readLine_of_settings hgives, readLine_of_settings hgives,
      rule.extract_atLine payload number other]
    cases rule.extract payload number <;> rfl
  · rw [readLine_of_metric hgives hname, readLine_of_metric hgives hname,
      NumberList.read_atLine ',' name number other]
    cases NumberList.read ',' name number payload <;> rfl

end RunLog

end TrialSeries
