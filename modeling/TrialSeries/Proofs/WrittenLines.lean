import TrialSeries.Proofs.LogSections

/-!
# Written lines of a run log

A blank line of a log says nothing and only counts. What a log says is said by its other lines, each
of them without the blanks at its ends and with its number. The numbers show in the report of a
failure and nowhere else, so logs with the same written lines have the same blocks.
-/

namespace TrialSeries

/-! ## Failures on other lines -/

namespace LogError

@[simp] theorem line_atLine (number : Nat) (error : LogError) :
    (error.atLine number).line = number := by
  cases error <;> rfl

end LogError

namespace RunLog

/-! ## Written lines -/

/-- The lines that are not blank, without the blanks at their ends, with their numbers; the first
line has the given number. -/
def writtenLines (number : Nat) : List (List Char) → List (Nat × List Char)
  | [] => []
  | line :: rest =>
    if Text.trim line = [] then writtenLines (number + 1) rest
    else (number, Text.trim line) :: writtenLines (number + 1) rest

/-- The meaning of a line that stands with its number. -/
def readNumbered (rule : Extraction) (line : Nat × List Char) : Except LogError Entry :=
  readLine rule line.1 line.2

theorem map_snd_writtenLines (number : Nat) (lines : List (List Char)) :
    (writtenLines number lines).map (·.2) = (lines.map Text.trim).filter (· ≠ []) := by
  induction lines generalizing number with
  | nil => rfl
  | cons line rest ih =>
    rw [writtenLines]
    by_cases hblank : Text.trim line = []
    · simp [hblank, ih]
    · simp [hblank, ih]

theorem writtenLines_append (number : Nat) (first second : List (List Char)) :
    writtenLines number (first ++ second) =
      writtenLines number first ++ writtenLines (number + first.length) second := by
  induction first generalizing number with
  | nil => rfl
  | cons line rest ih =>
    have hnumber : number + (line :: rest).length = number + 1 + rest.length := by
      rw [List.length_cons]
      omega
    rw [List.cons_append, writtenLines, writtenLines, ih, hnumber]
    split <;> rfl

/-- Lines that begin further down have greater numbers and are otherwise the same. -/
theorem writtenLines_add (number offset : Nat) (lines : List (List Char)) :
    writtenLines (number + offset) lines =
      (writtenLines number lines).map fun line ↦ (line.1 + offset, line.2) := by
  induction lines generalizing number with
  | nil => rfl
  | cons line rest ih =>
    have hnumber : number + offset + 1 = number + 1 + offset := by omega
    rw [writtenLines, writtenLines, hnumber, ih]
    split <;> rfl

/-! ## Reading them -/

variable {rule : Extraction} {number : Nat} {line : List Char} {error : LogError}

theorem readLine_trim (rule : Extraction) (number : Nat) (line : List Char) :
    readLine rule number (Text.trim line) = readLine rule number line := by
  simp [readLine]

theorem trim_eq_nil_of_readLine (h : readLine rule number line = .ok .blank) :
    Text.trim line = [] := by
  cases means_of_readLine h with
  | blank hline => exact hline

/-- A failure tells the number of the line that was read. -/
theorem line_of_readLine (h : readLine rule number line = .error error) : error.line = number := by
  have hsame := readLine_atLine rule number number line
  rw [h] at hsame
  have herror : error = error.atLine number := Except.error.inj hsame
  rw [herror, LogError.line_atLine]

theorem readNumbered_eq_ok_iff {line : Nat × List Char} {entry : Entry} :
    readNumbered rule line = .ok entry ↔ Means rule line.2 entry := by
  constructor
  · exact means_of_readLine
  · intro h
    exact readLine_of_means h line.1

/-- Numbers of lines play no part in what written lines mean. -/
theorem mapM_readNumbered_eq_ok_iff {written : List (Nat × List Char)} {entries : List Entry} :
    written.mapM (readNumbered rule) = .ok entries ↔
      List.Forall₂ (Means rule) (written.map (·.2)) entries := by
  simp only [mapM_eq_ok_iff, readNumbered_eq_ok_iff, List.forall₂_map_left_iff]

theorem readLines_without_blanks (rule : Extraction) (number : Nat) (lines : List (List Char)) :
    (readLines rule number lines).map (List.filter (· ≠ .blank)) =
      (writtenLines number lines).mapM (readNumbered rule) := by
  induction lines generalizing number with
  | nil => rfl
  | cons line rest ih =>
    rw [readLines, writtenLines]
    by_cases hblank : Text.trim line = []
    · rw [readLine_of_blank hblank, if_pos hblank, ← ih]
      cases readLines rule (number + 1) rest <;> rfl
    · rw [if_neg hblank, List.mapM_cons, ← ih, readNumbered, readLine_trim]
      cases hline : readLine rule number line with
      | error error => rfl
      | ok entry =>
        have hentry : entry ≠ .blank := by
          rintro rfl
          exact hblank (trim_eq_nil_of_readLine hline)
        cases readLines rule (number + 1) rest with
        | error error => rfl
        | ok entries => simp [Except.map, bind, Except.bind, pure, Except.pure, hentry]

theorem blocksOf_without_blanks (entries : List Entry) :
    blocksOf (entries.filter (· ≠ .blank)) = blocksOf entries := by
  have hstep : (fun (progress : Progress) entry ↦
      if decide (entry ≠ .blank) = true then progress.step entry else progress) = Progress.step := by
    funext progress entry
    cases entry <;> rfl
  rw [blocksOf, progressOf, List.foldl_filter, hstep, blocksOf, progressOf]

/-- The blocks of a log are those of its written lines, read one after the other. -/
theorem parseLines_eq_mapM_writtenLines (rule : Extraction) (lines : List (List Char)) :
    parseLines rule lines = ((writtenLines 1 lines).mapM (readNumbered rule)).map blocksOf := by
  rw [← readLines_without_blanks, parseLines]
  cases readLines rule 1 lines with
  | error error => rfl
  | ok entries => exact congrArg Except.ok (blocksOf_without_blanks entries).symm

end RunLog

end TrialSeries
