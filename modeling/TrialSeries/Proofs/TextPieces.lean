import Mathlib.Data.List.DropRight
import TrialSeries.Text.Characters
import TrialSeries.Text.Split

/-!
# Trimmed and cut texts

Trimming a trimmed text changes nothing, and blanks put before or behind a text are trimmed with it.
Cutting at a character finds its first occurrence, so the piece before the cut is free of the
character. Splitting at a character can be done in two parts at any place where the character stands.
A run of characters at the front ends where another text starts that goes on otherwise.
-/

namespace TrialSeries.Text

/-! ## Trimming -/

theorem trimEnd_cons_of_not_isBlank {char : Char} (h : isBlank char = false)
    (chars : List Char) : trimEnd (char :: chars) = char :: trimEnd chars := by
  simp only [trimEnd, List.reverse_cons, List.dropWhile_append]
  split
  · rename_i hempty
    rw [List.isEmpty_iff.1 hempty]
    simp [h]
  · simp

theorem trimStart_trimEnd_trimStart (chars : List Char) :
    trimStart (trimEnd (trimStart chars)) = trimEnd (trimStart chars) := by
  cases hstart : trimStart chars with
  | nil => rfl
  | cons char rest =>
    have hchar : isBlank char = false := by
      have := List.head?_dropWhile_not isBlank chars
      rw [show chars.dropWhile isBlank = char :: rest from hstart] at this
      simpa using this
    rw [trimEnd_cons_of_not_isBlank hchar]
    simp [trimStart, hchar]

@[simp] theorem trim_trim (chars : List Char) : trim (trim chars) = trim chars := by
  rw [trim, trim, trimStart_trimEnd_trimStart]
  simp [trimEnd, List.dropWhile_idempotent]

theorem trim_eq_nil_iff {chars : List Char} :
    trim chars = [] ↔ ∀ char ∈ chars, isBlank char = true := by
  have hend : trim chars = [] ↔ ∀ char ∈ trimStart chars, isBlank char = true :=
    List.rdropWhile_eq_nil_iff
  rw [hend, trimStart]
  constructor
  · intro h char hchar
    rw [← List.takeWhile_append_dropWhile (p := isBlank) (l := chars), List.mem_append] at hchar
    exact hchar.elim List.mem_takeWhile_imp (h char)
  · intro h char hchar
    exact h char (List.dropWhile_subset _ hchar)

theorem trim_subset (chars : List Char) : trim chars ⊆ chars :=
  fun _ hchar ↦ List.dropWhile_subset _ ((List.rdropWhile_prefix isBlank _).subset hchar)

/-! ## Blanks before and behind a text -/

theorem trim_cons_of_isBlank {char : Char} (h : isBlank char = true) (chars : List Char) :
    trim (char :: chars) = trim chars := by
  simp [trim, trimStart, h]

theorem trimEnd_append_of_isBlank {back : List Char} (h : ∀ char ∈ back, isBlank char = true)
    (chars : List Char) : trimEnd (chars ++ back) = trimEnd chars := by
  have hback : ∀ char ∈ back.reverse, isBlank char = true := by simpa using h
  rw [trimEnd, List.reverse_append, List.dropWhile_append_of_pos hback, trimEnd]

theorem trim_append_of_isBlank {back : List Char} (h : ∀ char ∈ back, isBlank char = true)
    (chars : List Char) : trim (chars ++ back) = trim chars := by
  rw [trim, trimStart, List.dropWhile_append]
  split
  · rename_i hempty
    have hchars : trimStart chars = [] := List.isEmpty_iff.1 hempty
    have hback : back.dropWhile isBlank = [] := List.dropWhile_eq_nil_iff.2 h
    rw [hback, trim, hchars]
  · exact trimEnd_append_of_isBlank h _

theorem trim_blanks_append {front : List Char} (h : ∀ char ∈ front, isBlank char = true)
    (chars : List Char) : trim (front ++ chars) = trim chars := by
  induction front with
  | nil => rfl
  | cons char front ih =>
    obtain ⟨hchar, hfront⟩ := List.forall_mem_cons.1 h
    rw [List.cons_append, trim_cons_of_isBlank hchar, ih hfront]

theorem trim_eq_self {chars : List Char} (h : ∀ char ∈ chars, isBlank char = false) :
    trim chars = chars := by
  have hstart {others : List Char} (hothers : ∀ char ∈ others, isBlank char = false) :
      others.dropWhile isBlank = others := by
    cases others with
    | nil => rfl
    | cons char rest => simp [hothers char List.mem_cons_self]
  have hreverse : ∀ char ∈ chars.reverse, isBlank char = false := by simpa using h
  rw [trim, trimStart, hstart h, trimEnd, hstart hreverse, List.reverse_reverse]

/-! ## Runs of characters -/

section Runs

variable {p : Char → Bool} {rest : List Char} (h : ∀ char ∈ rest.head?, p char = false)

include h

/-- A run of characters does not go on into a text that starts with none of them. -/
theorem takeWhile_append_of_head? (chars : List Char) :
    (chars ++ rest).takeWhile p = chars.takeWhile p := by
  induction chars with
  | nil =>
    cases rest with
    | nil => rfl
    | cons char rest => simp [h char rfl]
  | cons char chars ih => simp [List.takeWhile_cons, ih]

theorem dropWhile_append_of_head? (chars : List Char) :
    (chars ++ rest).dropWhile p = chars.dropWhile p ++ rest := by
  induction chars with
  | nil =>
    cases rest with
    | nil => rfl
    | cons char rest => simp [h char rfl]
  | cons char chars ih =>
    rw [List.cons_append, List.dropWhile_cons, List.dropWhile_cons, ih]
    split
    · rfl
    · rfl

end Runs

/-! ## Cutting -/

theorem eq_append_of_cutAt {separator : Char} {chars before after : List Char}
    (h : cutAt separator chars = some (before, after)) :
    chars = before ++ separator :: after ∧ separator ∉ before := by
  induction chars generalizing before with
  | nil => simp [cutAt] at h
  | cons char rest ih =>
    by_cases hchar : char = separator
    · obtain ⟨rfl, rfl⟩ : before = [] ∧ after = rest := by simpa [cutAt, hchar, eq_comm] using h
      simp [hchar]
    · rw [cutAt, if_neg hchar, Option.map_eq_some_iff] at h
      obtain ⟨⟨front, back⟩, hcut, heq⟩ := h
      cases heq
      obtain ⟨rfl, hfront⟩ := ih hcut
      simp [hfront, Ne.symm hchar]

theorem cutAt_append_cons {separator : Char} {before : List Char} (h : separator ∉ before)
    (after : List Char) : cutAt separator (before ++ separator :: after) = some (before, after) := by
  induction before with
  | nil => simp [cutAt]
  | cons char before ih =>
    rw [List.mem_cons, not_or] at h
    obtain ⟨hchar, hbefore⟩ := h
    simp [cutAt, Ne.symm hchar, ih hbefore]

theorem cutAt_eq_some_iff {separator : Char} {chars before after : List Char} :
    cutAt separator chars = some (before, after) ↔
      chars = before ++ separator :: after ∧ separator ∉ before := by
  constructor
  · exact eq_append_of_cutAt
  · intro h
    rcases h with ⟨rfl, hbefore⟩
    exact cutAt_append_cons hbefore after

theorem cutAt_eq_none_iff {separator : Char} {chars : List Char} :
    cutAt separator chars = none ↔ separator ∉ chars := by
  induction chars with
  | nil => simp [cutAt]
  | cons char rest ih =>
    by_cases hchar : char = separator
    · simp [cutAt, hchar]
    · simp [cutAt, hchar, ih, Ne.symm hchar]

/-! ## Splitting -/

/-- The pieces between the separators are those of the library. -/
theorem splitOn_eq_list_splitOn (separator : Char) (chars : List Char) :
    splitOn separator chars = chars.splitOn separator := by
  induction chars with
  | nil => rfl
  | cons char rest ih =>
    rw [splitOn, ih, List.splitOn_cons_eq_if_modifyHead]
    simp only [beq_iff_eq]
    split
    · rfl
    · obtain ⟨piece, pieces, hpieces⟩ :=
        List.exists_cons_of_ne_nil (List.splitOn_ne_nil separator rest)
      rw [hpieces, List.modifyHead_cons]

theorem splitOn_ne_nil (separator : Char) (chars : List Char) : splitOn separator chars ≠ [] := by
  rw [splitOn_eq_list_splitOn]
  exact List.splitOn_ne_nil separator chars

theorem splitOn_cons_of_ne {separator char : Char} (h : char ≠ separator) (rest : List Char) :
    splitOn separator (char :: rest) = (splitOn separator rest).modifyHead (char :: ·) := by
  simp only [splitOn_eq_list_splitOn, List.splitOn_cons_eq_if_modifyHead, beq_iff_eq, if_neg h]

/-- A character that is no separator joins the first piece. -/
theorem exists_splitOn_cons {separator char : Char} (h : char ≠ separator) (rest : List Char) :
    ∃ piece pieces, splitOn separator rest = piece :: pieces ∧
      splitOn separator (char :: rest) = (char :: piece) :: pieces := by
  obtain ⟨piece, pieces, hrest⟩ := List.exists_cons_of_ne_nil (splitOn_ne_nil separator rest)
  refine ⟨piece, pieces, hrest, ?_⟩
  rw [splitOn_cons_of_ne h, hrest, List.modifyHead_cons]

theorem splitOn_of_notMem {separator : Char} {chars : List Char} (h : separator ∉ chars) :
    splitOn separator chars = [chars] := by
  rw [splitOn_eq_list_splitOn, List.splitOn_eq_singleton h]

/-- The pieces before and after an occurrence of the separator are found apart from each other. -/
theorem splitOn_append (separator : Char) (before after : List Char) :
    splitOn separator (before ++ separator :: after) =
      splitOn separator before ++ splitOn separator after := by
  simp only [splitOn_eq_list_splitOn, List.splitOn_append_cons_self]

theorem splitOn_append_cons {separator : Char} {before : List Char} (h : separator ∉ before)
    (after : List Char) :
    splitOn separator (before ++ separator :: after) = before :: splitOn separator after := by
  rw [splitOn_append, splitOn_of_notMem h, List.singleton_append]

/-- Pieces without the separator are found again between the separators put between them. -/
theorem splitOn_intercalate {separator : Char} {pieces : List (List Char)} (hne : pieces ≠ [])
    (h : ∀ piece ∈ pieces, separator ∉ piece) :
    splitOn separator ([separator].intercalate pieces) = pieces := by
  rw [splitOn_eq_list_splitOn, List.splitOn_intercalate separator h hne]

/-- What is put behind a text without a separator of its own joins the last piece. -/
theorem exists_splitOn_append {separator : Char} {back : List Char} (h : separator ∉ back)
    (front : List Char) :
    ∃ pieces last, splitOn separator front = pieces ++ [last] ∧
      splitOn separator (front ++ back) = pieces ++ [last ++ back] := by
  induction front with
  | nil => exact ⟨[], [], rfl, splitOn_of_notMem h⟩
  | cons char front ih =>
    obtain ⟨pieces, last, hfront, hback⟩ := ih
    by_cases hchar : char = separator
    · refine ⟨[] :: pieces, last, ?_, ?_⟩
      · simp [splitOn, hchar, hfront]
      · simp [splitOn, hchar, hback]
    · rw [List.cons_append, splitOn_cons_of_ne hchar, splitOn_cons_of_ne hchar, hfront, hback]
      cases pieces with
      | nil => exact ⟨[], char :: last, rfl, rfl⟩
      | cons piece pieces => exact ⟨(char :: piece) :: pieces, last, rfl, rfl⟩

theorem notMem_of_mem_splitOn {separator : Char} {chars piece : List Char}
    (h : piece ∈ splitOn separator chars) : separator ∉ piece := by
  induction chars generalizing piece with
  | nil =>
    rw [List.mem_singleton.1 h]
    exact List.not_mem_nil
  | cons char rest ih =>
    by_cases hchar : char = separator
    · rw [splitOn, if_pos hchar] at h
      rcases List.mem_cons.1 h with rfl | h
      · exact List.not_mem_nil
      · exact ih h
    · obtain ⟨first, pieces, hrest, hcons⟩ := exists_splitOn_cons hchar rest
      rw [hcons] at h
      rw [hrest, List.forall_mem_cons] at ih
      rcases List.mem_cons.1 h with rfl | h
      · simp [Ne.symm hchar, ih.1]
      · exact ih.2 piece h

theorem subset_of_mem_splitOn {separator : Char} {chars piece : List Char}
    (h : piece ∈ splitOn separator chars) : piece ⊆ chars := by
  induction chars generalizing piece with
  | nil => simp [List.mem_singleton.1 h]
  | cons char rest ih =>
    by_cases hchar : char = separator
    · rw [splitOn, if_pos hchar] at h
      rcases List.mem_cons.1 h with rfl | h
      · exact List.nil_subset _
      · exact List.subset_cons_of_subset _ (ih h)
    · obtain ⟨first, pieces, hrest, hcons⟩ := exists_splitOn_cons hchar rest
      rw [hcons] at h
      rw [hrest, List.forall_mem_cons] at ih
      rcases List.mem_cons.1 h with rfl | h
      · exact List.cons_subset_cons char ih.1
      · exact List.subset_cons_of_subset _ (ih.2 piece h)

end TrialSeries.Text
