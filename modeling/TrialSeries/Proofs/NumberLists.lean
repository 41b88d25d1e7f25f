import TrialSeries.Proofs.FieldPositions
import TrialSeries.Proofs.LiteralGrammar
import TrialSeries.Proofs.NumberReading
import TrialSeries.Proofs.Sections

/-!
# The grammar of lists of numbers

A payload that is not blank is cut at each separator of its trimmed text, and it can be read exactly if
each piece is a literal between blanks; the numbers are then those of the pieces, one by one. So
literals with a separator between them are read back, whatever blanks stand around them, and a
separator without a literal on one of its sides is always refused. The separator must be no blank for
that, since blanks at the ends of a payload are trimmed.
-/

namespace TrialSeries.NumberList

open Literal Text

/-! ## Reading piece by piece -/

/-- The pieces between all separators of a text. -/
structure IsSplit (separator : Char) (text : List Char) (pieces : List (List Char)) : Prop where
  joined : [separator].intercalate pieces = text
  notMem : ∀ piece ∈ pieces, separator ∉ piece
  length_eq : pieces.length = text.count separator + 1

theorem length_splitOn (separator : Char) (text : List Char) :
    (splitOn separator text).length = text.count separator + 1 := by
  induction text with
  | nil => rfl
  | cons char rest ih =>
    by_cases hchar : char = separator
    · rw [splitOn, if_pos hchar, List.length_cons, ih, hchar, List.count_cons_self]
    · rw [splitOn_cons_of_ne hchar, List.length_modifyHead, ih, List.count_cons_of_ne hchar]

theorem isSplit_splitOn (separator : Char) (text : List Char) :
    IsSplit separator text (splitOn separator text) where
  joined := by rw [splitOn_eq_list_splitOn, List.intercalate_splitOn]
  notMem _ := notMem_of_mem_splitOn
  length_eq := length_splitOn separator text

theorem readPiece_eq_ok_iff {field : String} {line : Nat} {piece : List Char} {value : Binary64} :
    readPiece field line piece = .ok value ↔ Binary64.parse? piece = some value := by
  unfold readPiece
  cases Binary64.parse? piece <;> simp

/-- What comes of reading some pieces: their numbers if each is a literal between blanks, and else a
report on the first one that is none. -/
structure IsReading (field : String) (line : Nat) (pieces : List (List Char))
    (outcome : Except LogError (List Binary64)) : Prop where
  ok_iff (values : List Binary64) : outcome = .ok values ↔
    List.Forall₂ (fun piece value ↦ Binary64.parse? (trim piece) = some value) pieces values
  exists_ok_iff : (∃ values, outcome = .ok values) ↔ ∀ piece ∈ pieces, IsLiteral (trim piece)
  error_iff (error : LogError) : outcome = .error error ↔
    ∃ place piece, IsFirst (fun piece ↦ ¬ IsLiteral (trim piece)) pieces place piece ∧
      error = .invalidNumber line field (String.ofList (trim piece))

theorem isReading_mapM (field : String) (line : Nat) (pieces : List (List Char)) :
    IsReading field line pieces (pieces.mapM fun piece ↦ readPiece field line (trim piece)) := by
  have herror (error : LogError) :
      (pieces.mapM fun piece ↦ readPiece field line (trim piece)) = .error error ↔
        ∃ place piece, IsFirst (fun piece ↦ ¬ IsLiteral (trim piece)) pieces place piece ∧
          error = .invalidNumber line field (String.ofList (trim piece)) := by
    rw [mapM_eq_error_iff]
    simp only [readPiece_eq_error_iff, parse?_eq_none_iff, exists_and_left, exists_eq, and_true]
    constructor
    · rintro ⟨place, piece, hfirst, -, rfl⟩
      exact ⟨place, piece, hfirst, rfl⟩
    · rintro ⟨place, piece, hfirst, rfl⟩
      exact ⟨place, piece, hfirst, hfirst.2.1, rfl⟩
  have hbad : (∃ error, (pieces.mapM fun piece ↦ readPiece field line (trim piece)) =
      .error error) ↔ ∃ piece ∈ pieces, ¬ IsLiteral (trim piece) := by
    simp only [herror, ← exists_isFirst_iff]
    constructor
    · rintro ⟨_, place, piece, hfirst, -⟩
      exact ⟨place, piece, hfirst⟩
    · rintro ⟨place, piece, hfirst⟩
      exact ⟨_, place, piece, hfirst, rfl⟩
  refine ⟨?_, ?_, herror⟩
  · intro values
    rw [mapM_eq_ok_iff]
    simp only [readPiece_eq_ok_iff]
  · cases houtcome : pieces.mapM fun piece ↦ readPiece field line (trim piece) with
    | ok values => simpa [houtcome] using hbad
    | error error => simpa [houtcome] using hbad

/-- A payload that is not blank is read piece by piece. -/
theorem isReading_read {payload : List Char} (h : trim payload ≠ []) (separator : Char)
    (field : String) (line : Nat) :
    IsReading field line (splitOn separator (trim payload))
      (read separator field line payload) := by
  have hread : read separator field line payload =
      (splitOn separator (trim payload)).mapM fun piece ↦ readPiece field line (trim piece) := by
    rw [read, if_neg h, pieces, List.mapM_map]
    rfl
  rw [hread]
  exact isReading_mapM field line _

/-! ## Literals between blanks -/

theorem notMem_of_forall_isBlank {char : Char} (hchar : isBlank char = false)
    {blanks : List Char} (h : ∀ blank ∈ blanks, isBlank blank = true) : char ∉ blanks := by
  intro hmem
  rw [h char hmem] at hchar
  cases hchar

/-- A text is a literal with blanks before and behind it. -/
def IsPadded (literal text : List Char) : Prop :=
  ∃ front back : List Char, (∀ char ∈ front, isBlank char = true) ∧
    (∀ char ∈ back, isBlank char = true) ∧ text = front ++ literal ++ back

/-- Trimming leaves the literal, in which there are no blanks. -/
theorem IsPadded.trim_eq {literal text : List Char} (h : IsPadded literal text)
    (hliteral : IsLiteral literal) : trim text = literal := by
  obtain ⟨front, back, hfront, hback, rfl⟩ := h
  rw [trim_append_of_isBlank hback, trim_blanks_append hfront, trim_eq_self hliteral.isBlank_of_mem]

/-- A text spells a number: it is a padded literal of that value, without the separator. -/
def SpellsNumber (separator : Char) (text : List Char) (value : Binary64) : Prop :=
  ∃ literal, IsPadded literal text ∧ separator ∉ literal ∧ Binary64.parse? literal = some value

namespace SpellsNumber

variable {separator : Char} {text : List Char} {value : Binary64}

theorem parse?_trim (h : SpellsNumber separator text value) :
    Binary64.parse? (trim text) = some value := by
  obtain ⟨literal, hpadded, -, hvalue⟩ := h
  rw [hpadded.trim_eq (isLiteral_of_parse? hvalue), hvalue]

theorem trim_ne_nil (h : SpellsNumber separator text value) : trim text ≠ [] :=
  (isLiteral_of_parse? h.parse?_trim).ne_nil

theorem notMem (h : SpellsNumber separator text value) (hseparator : isBlank separator = false) :
    separator ∉ text := by
  obtain ⟨literal, ⟨front, back, hfront, hback, rfl⟩, hliteral, -⟩ := h
  rw [List.mem_append, List.mem_append, not_or, not_or]
  exact ⟨⟨notMem_of_forall_isBlank hseparator hfront, hliteral⟩,
    notMem_of_forall_isBlank hseparator hback⟩

end SpellsNumber

/-! ## Separators without a literal -/

/-- A separator that has no literal before it or none behind it: it stands at the start of a payload
or at its end, or another separator follows. -/
inductive LacksLiteral (separator : Char) : List Char → Prop where
  | leading {blanks : List Char} (h : ∀ char ∈ blanks, isBlank char = true) (after : List Char) :
      LacksLiteral separator (blanks ++ separator :: after)
  | trailing {blanks : List Char} (h : ∀ char ∈ blanks, isBlank char = true)
      (before : List Char) : LacksLiteral separator (before ++ separator :: blanks)
  | doubled {blanks : List Char} (h : ∀ char ∈ blanks, isBlank char = true)
      (before after : List Char) :
      LacksLiteral separator (before ++ separator :: (blanks ++ separator :: after))

theorem LacksLiteral.mem {separator : Char} {payload : List Char}
    (h : LacksLiteral separator payload) : separator ∈ payload := by
  cases h <;> simp

/-- The piece on that side is blank. -/
theorem LacksLiteral.exists_piece {separator : Char} {payload : List Char}
    (h : LacksLiteral separator payload) (hseparator : isBlank separator = false) :
    ∃ piece ∈ splitOn separator payload, trim piece = [] := by
  cases h with
  | @leading blanks hblanks after =>
    refine ⟨blanks, ?_, trim_eq_nil_iff.2 hblanks⟩
    rw [splitOn_append_cons (notMem_of_forall_isBlank hseparator hblanks)]
    exact List.mem_cons_self
  | @trailing blanks hblanks before =>
    refine ⟨blanks, ?_, trim_eq_nil_iff.2 hblanks⟩
    rw [splitOn_append, splitOn_of_notMem (notMem_of_forall_isBlank hseparator hblanks)]
    exact List.mem_append_right _ List.mem_cons_self
  | @doubled blanks hblanks before after =>
    refine ⟨blanks, ?_, trim_eq_nil_iff.2 hblanks⟩
    rw [splitOn_append, splitOn_append_cons (notMem_of_forall_isBlank hseparator hblanks)]
    exact List.mem_append_right _ List.mem_cons_self

/-! ## Separators that are no blanks -/

section Separator

variable {separator : Char} (hseparator : isBlank separator = false)

include hseparator

/-- Trimming a payload takes no piece away. -/
theorem pieces_eq_fieldsOf (payload : List Char) :
    pieces separator payload = fieldsOf separator payload := by
  have hpieces : pieces separator payload = fieldsOf separator (trim payload) := rfl
  rw [hpieces, fieldsOf_trim, fieldsLeft, hseparator, if_neg Bool.false_ne_true]

/-- Literals that are joined by the separator are read back. -/
theorem read_joined {texts : List (List Char)} {values : List Binary64} (hne : texts ≠ [])
    (h : List.Forall₂ (SpellsNumber separator) texts values) (field : String) (line : Nat) :
    read separator field line ([separator].intercalate texts) = .ok values := by
  have htexts : ∀ text ∈ texts, separator ∉ text := by
    intro text htext
    obtain ⟨value, -, hspells⟩ := exists_mem_of_forall₂_left h htext
    exact hspells.notMem hseparator
  have hpieces : pieces separator ([separator].intercalate texts) = texts.map trim := by
    rw [pieces_eq_fieldsOf hseparator, fieldsOf, splitOn_intercalate hne htexts]
  have hwritten : trim ([separator].intercalate texts) ≠ [] := by
    intro hblank
    have hnil : [] ∈ texts.map trim := by
      rw [← hpieces, pieces, hblank]
      exact List.mem_cons_self
    obtain ⟨text, htext, htrim⟩ := List.mem_map.1 hnil
    obtain ⟨value, -, hspells⟩ := exists_mem_of_forall₂_left h htext
    exact hspells.trim_ne_nil htrim
  rw [read, if_neg hwritten, hpieces, mapM_eq_ok_iff, List.forall₂_map_left_iff]
  exact h.imp fun text value hspells ↦ readPiece_eq_ok_iff.2 hspells.parse?_trim

/-- A separator that lacks a literal is refused. -/
theorem exists_read_eq_error {payload : List Char} (h : LacksLiteral separator payload)
    (field : String) (line : Nat) :
    ∃ error, read separator field line payload = .error error := by
  rw [exists_read_eq_error_iff]
  constructor
  · rw [ne_eq, trim_eq_nil_iff]
    intro hblank
    exact notMem_of_forall_isBlank hseparator hblank h.mem
  · refine ⟨[], ?_, rfl⟩
    obtain ⟨piece, hpiece, htrim⟩ := h.exists_piece hseparator
    rw [pieces_eq_fieldsOf hseparator, fieldsOf, ← htrim]
    exact List.mem_map_of_mem hpiece

end Separator

/-- A blank payload is the empty list, and any other payload is read as the pieces between the
separators of its trimmed text, one more of them than separators. Under a separator that is no blank,
literals joined by it are read back, and no separator may lack a literal. -/
theorem read_accepts_exactly :
    (∀ (separator : Char) (field : String) (line : Nat) (payload : List Char),
      (trim payload = [] → read separator field line payload = .ok []) ∧
      (trim payload ≠ [] → ∃ pieces, IsSplit separator (trim payload) pieces ∧
        IsReading field line pieces (read separator field line payload))) ∧
    ∀ (separator : Char), isBlank separator = false → ∀ (field : String) (line : Nat),
      (∀ (texts : List (List Char)) (values : List Binary64), texts ≠ [] →
        List.Forall₂ (SpellsNumber separator) texts values →
          read separator field line ([separator].intercalate texts) = .ok values) ∧
      ∀ payload, LacksLiteral separator payload →
        ∃ error, read separator field line payload = .error error := by
  constructor
  · intro separator field line payload
    refine ⟨fun hblank ↦ if_pos hblank, ?_⟩
    intro hwritten
    exact ⟨_, isSplit_splitOn separator _, isReading_read hwritten separator field line⟩
  · intro separator hseparator field line
    refine ⟨?_, ?_⟩
    · intro texts values hne htexts
      exact read_joined hseparator hne htexts field line
    · intro payload hlacks
      exact exists_read_eq_error hseparator hlacks field line

/-- Three padded literals are read back, and nothing but a blank between two separators is refused. -/
theorem read_accepts_exactly_padded :
    read ';' "x" 3 " 1; -2.5e1 ;NaN".toList =
        .ok [⟨0x3ff0000000000000⟩, ⟨0xc039000000000000⟩, ⟨0x7ff8000000000000⟩] ∧
      ∃ error, read ';' "x" 3 "1; ;2".toList = .error error := by
  have hpadded (front literal back : String) (hfront : front.toList.all isBlank = true)
      (hback : back.toList.all isBlank = true) :
      IsPadded literal.toList (front.toList ++ literal.toList ++ back.toList) :=
    ⟨front.toList, back.toList, List.all_eq_true.1 hfront, List.all_eq_true.1 hback, rfl⟩
  have hread := read_accepts_exactly.2 ';' (by decide) "x" 3
  constructor
  · apply hread.1 [" 1".toList, " -2.5e1 ".toList, "NaN".toList] _ (by decide)
    refine .cons ⟨"1".toList, ?_, by decide, by decide +kernel⟩
      (.cons ⟨"-2.5e1".toList, ?_, by decide, by decide +kernel⟩
        (.cons ⟨"NaN".toList, ?_, by decide, by decide +kernel⟩ .nil))
    · exact hpadded " " "1" "" rfl rfl
    · exact hpadded " " "-2.5e1" " " rfl rfl
    · exact hpadded "" "NaN" "" rfl rfl
  · exact hread.2 _ (.doubled (List.forall_mem_singleton.2 rfl) ['1'] ['2'])

end TrialSeries.NumberList
