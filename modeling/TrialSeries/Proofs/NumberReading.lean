import TrialSeries.NumberList
import TrialSeries.Proofs.FirstBad

/-!
# Reading lists of numbers

A payload cannot be read exactly if one of its pieces is no number literal, and then the first such
piece is reported. The place of the payload in the log changes the report and nothing else.
-/

namespace TrialSeries

/-- The same failure on another line. -/
def LogError.atLine (number : Nat) : LogError → LogError
  | missingSeparator _ content => missingSeparator number content
  | invalidNumber _ field literal => invalidNumber number field literal
  | missingField _ settings index separator => missingField number settings index separator

namespace NumberList

/-- The first piece of a payload that is no number literal; a blank payload has no pieces. -/
def IsFirstBadPiece (separator : Char) (payload piece : List Char) : Prop :=
  Text.trim payload ≠ [] ∧
    ∃ place, IsFirst (fun piece ↦ Binary64.parse? piece = none) (pieces separator payload) place piece

theorem exists_isFirstBadPiece_iff {separator : Char} {payload : List Char} :
    (∃ piece, IsFirstBadPiece separator payload piece) ↔
      Text.trim payload ≠ [] ∧ ∃ piece ∈ pieces separator payload, Binary64.parse? piece = none := by
  simp only [IsFirstBadPiece, exists_and_left]
  rw [exists_comm, exists_isFirst_iff]

theorem readPiece_eq_error_iff {field : String} {line : Nat} {piece : List Char}
    {error : LogError} :
    readPiece field line piece = .error error ↔
      Binary64.parse? piece = none ∧ error = .invalidNumber line field (String.ofList piece) := by
  unfold readPiece
  cases Binary64.parse? piece <;> simp [eq_comm]

theorem read_eq_error_iff {separator : Char} {field : String} {line : Nat} {payload : List Char}
    {error : LogError} :
    read separator field line payload = .error error ↔
      ∃ piece, IsFirstBadPiece separator payload piece ∧
        error = .invalidNumber line field (String.ofList piece) := by
  unfold read
  by_cases hblank : Text.trim payload = []
  · simp [hblank, IsFirstBadPiece]
  · rw [if_neg hblank, mapM_eq_error_iff]
    simp only [readPiece_eq_error_iff, exists_and_left, exists_eq, and_true]
    constructor
    · intro h
      rcases h with ⟨place, piece, hfirst, -, herror⟩
      exact ⟨piece, ⟨hblank, place, hfirst⟩, herror⟩
    · intro h
      rcases h with ⟨piece, ⟨-, place, hfirst⟩, herror⟩
      exact ⟨place, piece, hfirst, hfirst.2.1, herror⟩

/-- A payload that is not blank cannot be read exactly if some piece of it is no number literal. -/
theorem exists_read_eq_error_iff {separator : Char} {field : String} {line : Nat}
    {payload : List Char} :
    (∃ error, read separator field line payload = .error error) ↔
      Text.trim payload ≠ [] ∧ ∃ piece ∈ pieces separator payload, Binary64.parse? piece = none := by
  rw [← exists_isFirstBadPiece_iff]
  simp only [read_eq_error_iff]
  constructor
  · intro h
    obtain ⟨error, piece, hpiece, -⟩ := h
    exact ⟨piece, hpiece⟩
  · intro h
    obtain ⟨piece, hpiece⟩ := h
    exact ⟨_, piece, hpiece, rfl⟩

theorem read_atLine (separator : Char) (field : String) (line other : Nat) (payload : List Char) :
    read separator field other payload =
      (read separator field line payload).mapError (LogError.atLine other) := by
  have hpiece (piece : List Char) : readPiece field other piece =
      (readPiece field line piece).mapError (LogError.atLine other) := by
    unfold readPiece
    cases Binary64.parse? piece <;> rfl
  unfold read
  split
  · rfl
  · rw [funext hpiece]
    exact mapM_mapError _ _ _

/-- The numbers in a payload do not depend on the line on which it stands. -/
theorem read_eq_ok_congr {separator : Char} {field : String} {line : Nat} {payload : List Char}
    {values : List Binary64} (h : read separator field line payload = .ok values) (other : Nat) :
    read separator field other payload = .ok values := by
  rw [read_atLine separator field line other, h]
  rfl

end NumberList

end TrialSeries
