import Mathlib.Data.List.Basic
import TrialSeries.Decimal.Notation
import TrialSeries.Proofs.TextPieces
import TrialSeries.Text.LetterCase
import TrialSeries.Timestamp

/-!
# Texts of one line

A text without a line feed is one line, and so are the texts that are made of such texts, of numbers
and of times. A text that ends each of its lines with a line feed can be cut into these lines again.
-/

namespace TrialSeries

namespace Text

/-- No line feed occurs in a text. -/
def IsOneLine (text : String) : Prop := '\n' ∉ text.toList

instance (text : String) : Decidable (IsOneLine text) := inferInstanceAs (Decidable (_ ∉ _))

@[simp] theorem isOneLine_ofList {chars : List Char} :
    IsOneLine (String.ofList chars) ↔ '\n' ∉ chars := by
  rw [IsOneLine, String.toList_ofList]

@[simp] theorem isOneLine_append {left right : String} :
    IsOneLine (left ++ right) ↔ IsOneLine left ∧ IsOneLine right := by
  simp [IsOneLine, not_or]

@[simp] theorem isOneLine_join {texts : List String} :
    IsOneLine (String.join texts) ↔ ∀ text ∈ texts, IsOneLine text := by
  simp [IsOneLine, String.toList_join]

/-! ## Lines -/

/-- The lines of a text; behind the last line feed there is a further, perhaps empty line. -/
def lineTexts (text : String) : List String := (splitOn '\n' text.toList).map String.ofList

theorem lineTexts_append_cons {line : String} (h : IsOneLine line) (rest : String) :
    lineTexts (line ++ "\n" ++ rest) = line :: lineTexts rest := by
  have hchars : (line ++ "\n" ++ rest).toList = line.toList ++ '\n' :: rest.toList := by simp
  rw [lineTexts, hchars, splitOn_append_cons h, List.map_cons, String.ofList_toList, ← lineTexts]

theorem lineTexts_join {lines : List String} (h : ∀ line ∈ lines, IsOneLine line) :
    lineTexts (String.join (lines.map (· ++ "\n"))) = lines ++ [""] := by
  induction lines with
  | nil => decide
  | cons line lines ih =>
    obtain ⟨hline, hlines⟩ := List.forall_mem_cons.1 h
    rw [List.map_cons, String.join_cons, lineTexts_append_cons hline, ih hlines,
      List.cons_append]

/-- What stands on a line behind a mark at its start, if the line starts with the mark. -/
def after? (mark line : String) : Option String :=
  (line.toList.dropPrefix? mark.toList).map String.ofList

theorem after?_eq_some_iff {mark line rest : String} :
    after? mark line = some rest ↔ line = mark ++ rest := by
  simp only [after?, Option.map_eq_some_iff, List.dropPrefix?_eq_some_iff, beq_iff_eq]
  constructor
  · rintro ⟨chars, ⟨_, hchars, rfl⟩, rfl⟩
    rw [← String.toList_inj, hchars, String.toList_append, String.toList_ofList]
  · rintro rfl
    exact ⟨rest.toList, ⟨_, String.toList_append, rfl⟩, String.ofList_toList⟩

theorem after?_eq_none_of_head?_ne {mark line : String} (hmark : mark.toList ≠ [])
    (h : line.toList.head? ≠ mark.toList.head?) : after? mark line = none := by
  rw [Option.eq_none_iff_forall_ne_some]
  intro rest hrest
  apply h
  rw [after?_eq_some_iff.1 hrest, String.toList_append, List.head?_append_of_ne_nil _ hmark]

/-! ## Lower case -/

theorem toNat_ofNat {n : Nat} (h : n.isValidChar) : (Char.ofNat n).toNat = n := by
  rw [Char.ofNat, dif_pos h]
  rfl

theorem newline_ne_ofNat {n : Nat} (h : 10 < n) : '\n' ≠ Char.ofNat n := by
  intro heq
  by_cases hvalid : n.isValidChar
  · have hcode := congrArg Char.toNat heq
    rw [toNat_ofNat hvalid] at hcode
    rw [← hcode] at h
    exact absurd h (by decide)
  · have hzero : Char.ofNat n = Char.ofNat 0 := dif_neg hvalid
    exact absurd (heq.trans hzero) (by decide)

theorem newline_ne_toLower {char : Char} (hascii : char.toNat < 0x80) (h : '\n' ≠ char) :
    '\n' ≠ char.toLower := by
  have hall : ∀ code < 0x80, '\n' ≠ Char.ofNat code → '\n' ≠ (Char.ofNat code).toLower := by
    decide +kernel
  have hcode := hall char.toNat hascii
  rw [Char.ofNat_toNat] at hcode
  exact hcode h

theorem newline_notMem_lowerChar {char : Char} (h : '\n' ≠ char) : '\n' ∉ lowerChar char := by
  unfold lowerChar
  split
  · rename_i hascii
    rw [List.mem_singleton]
    exact newline_ne_toLower hascii h
  · split
    · decide
    · split
      · rename_i run hfind
        have hruns : ∀ run ∈ caseRuns, 10 < run.first + run.offset := by decide +kernel
        have hrun := hruns run (List.mem_of_find?_eq_some hfind)
        have hcovers := List.find?_some hfind
        simp only [CaseRun.covers, Bool.and_eq_true, decide_eq_true_eq] at hcovers
        rw [List.mem_singleton]
        apply newline_ne_ofNat
        omega
      · rw [List.mem_singleton]
        exact h

theorem newline_notMem_lowerFrom {chars : List Char} (h : '\n' ∉ chars) (before : List Char) :
    '\n' ∉ lowerFrom before chars := by
  induction chars generalizing before with
  | nil => exact h
  | cons char rest ih =>
    rw [List.mem_cons, not_or] at h
    obtain ⟨hchar, hrest⟩ := h
    rw [lowerFrom, List.mem_append, not_or]
    refine ⟨?_, ih hrest _⟩
    split
    · split <;> decide
    · exact newline_notMem_lowerChar hchar

theorem isOneLine_lower {text : String} (h : IsOneLine text) : IsOneLine (lower text) := by
  rw [lower, isOneLine_ofList]
  exact newline_notMem_lowerFrom h []

end Text

/-! ## Numbers -/

/-- A character of which the text of a number is made. -/
def Text.IsNumeral (char : Char) : Prop :=
  char.isDigit = true ∨ char ∈ ['-', '.', 'N', 'a', 'i', 'n', 'f']

instance (char : Char) : Decidable (Text.IsNumeral char) := inferInstanceAs (Decidable (_ ∨ _))

open Text

/-- The letters of a word are checked one by one. -/
theorem isNumeral_of_all {chars : List Char}
    (h : (chars.all fun char ↦ decide (IsNumeral char)) = true) : ∀ char ∈ chars, IsNumeral char := by
  simpa using h

theorem isNumeral_of_mem_toDigits {n : Nat} : ∀ char ∈ Nat.toDigits 10 n, IsNumeral char :=
  fun _ hchar ↦ .inl (Nat.isDigit_of_mem_toDigits (by decide) (by decide) hchar)

theorem isNumeral_of_mem_repr {n : Nat} : ∀ char ∈ n.repr.toList, IsNumeral char := by
  rw [Nat.toList_repr]
  exact isNumeral_of_mem_toDigits

theorem isNumeral_of_mem_zeros {n : Nat} : ∀ char ∈ List.replicate n '0', IsNumeral char :=
  List.forall_mem_replicate.2 (.inr (by decide))

theorem isNumeral_of_mem_positional {decimal : Decimal} :
    ∀ char ∈ decimal.positional, IsNumeral char := by
  have hdigits : ∀ char ∈ decimal.digits, IsNumeral char := isNumeral_of_mem_toDigits
  have htake (n : Nat) : ∀ char ∈ decimal.digits.take n, IsNumeral char :=
    fun char hchar ↦ hdigits char (List.mem_of_mem_take hchar)
  have hdrop (n : Nat) : ∀ char ∈ decimal.digits.drop n, IsNumeral char :=
    fun char hchar ↦ hdigits char (List.mem_of_mem_drop hchar)
  unfold Decimal.positional
  dsimp only
  split
  · exact List.forall_mem_append.2 ⟨hdigits, isNumeral_of_mem_zeros⟩
  · split
    · exact List.forall_mem_append.2 ⟨htake _, List.forall_mem_cons.2 ⟨by decide, hdrop _⟩⟩
    · exact List.forall_mem_append.2 ⟨List.forall_mem_cons.2 ⟨by decide,
        List.forall_mem_cons.2 ⟨by decide, isNumeral_of_mem_zeros⟩⟩, hdigits⟩

namespace Binary64

theorem isNumeral_of_mem_signed {value : Binary64} {chars : List Char}
    (h : ∀ char ∈ chars, IsNumeral char) : ∀ char ∈ (value.signed chars).toList, IsNumeral char := by
  rw [signed, String.toList_ofList]
  split
  · exact List.forall_mem_cons.2 ⟨by decide, h⟩
  · exact h

theorem isNumeral_of_mem_display {value : Binary64} :
    ∀ char ∈ value.display.toList, IsNumeral char := by
  unfold display
  split
  · exact isNumeral_of_all (by decide)
  · apply isNumeral_of_mem_signed
    split
    · exact isNumeral_of_all (by decide)
    · exact isNumeral_of_mem_positional

theorem isNumeral_of_mem_fixed {places : Nat} {value : Binary64} :
    ∀ char ∈ (value.fixed places).toList, IsNumeral char := by
  unfold fixed
  split
  · exact isNumeral_of_all (by decide)
  · split
    · exact isNumeral_of_mem_signed (isNumeral_of_all (by decide))
    · apply isNumeral_of_mem_signed
      generalize hpadded : List.replicate _ '0' ++ Nat.toDigits 10 _ = padded
      have hall : ∀ char ∈ padded, IsNumeral char := by
        rw [← hpadded]
        exact List.forall_mem_append.2 ⟨isNumeral_of_mem_zeros, isNumeral_of_mem_toDigits⟩
      split
      · exact hall
      · exact List.forall_mem_append.2 ⟨fun char hchar ↦ hall char (List.mem_of_mem_take hchar),
          List.forall_mem_cons.2 ⟨by decide, fun char hchar ↦ hall char (List.mem_of_mem_drop hchar)⟩⟩

end Binary64

/-- A text of numerals has no other character. -/
theorem Text.notMem_of_forall_isNumeral {char : Char} {chars : List Char}
    (hchar : ¬ IsNumeral char) (h : ∀ char ∈ chars, IsNumeral char) : char ∉ chars :=
  fun hmem ↦ hchar (h char hmem)

theorem newline_notMem_toDigits (n : Nat) : '\n' ∉ Nat.toDigits 10 n :=
  notMem_of_forall_isNumeral (by decide) isNumeral_of_mem_toDigits

@[simp] theorem isOneLine_repr (n : Nat) : IsOneLine n.repr :=
  notMem_of_forall_isNumeral (by decide) isNumeral_of_mem_repr

@[simp] theorem Binary64.isOneLine_display (value : Binary64) : IsOneLine value.display :=
  notMem_of_forall_isNumeral (by decide) isNumeral_of_mem_display

@[simp] theorem Binary64.isOneLine_fixed (places : Nat) (value : Binary64) :
    IsOneLine (value.fixed places) :=
  notMem_of_forall_isNumeral (by decide) isNumeral_of_mem_fixed

namespace Timestamp

@[simp] theorem isOneLine_padded (width n : Nat) : IsOneLine (padded width n) := by
  simp [padded, newline_notMem_toDigits]

theorem isOneLine_yearText (year : Int) : IsOneLine (yearText year) := by
  unfold yearText
  split
  · exact isOneLine_padded _ _
  · split <;> simp +decide

@[simp] theorem isOneLine_display (timestamp : Timestamp) : IsOneLine timestamp.display := by
  have hyear := isOneLine_yearText timestamp.date.year
  simp +decide [display, dateText, timeText, hyear]

end Timestamp

end TrialSeries
