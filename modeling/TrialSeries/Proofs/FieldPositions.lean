import TrialSeries.Extraction
import TrialSeries.Proofs.TextPieces

/-!
# The positions of fields

A rule for one field takes the field that stands at its index between the separators. The settings
are trimmed before they are split. Blanks around the first and the last field make no difference, but
a separator that is a blank itself is trimmed together with the blank fields at the ends, and then
the fields behind them change their places.
-/

namespace TrialSeries

namespace Text

/-! ## Fields of trimmed texts -/

/-- The fields of a text, without the blanks around each. -/
def fieldsOf (separator : Char) (chars : List Char) : List (List Char) :=
  (splitOn separator chars).map trim

/-- A text has a field, if only an empty one. -/
def atLeastOne (fields : List (List Char)) : List (List Char) :=
  if fields = [] then [[]] else fields

/-- The fields that are left if a text is trimmed: a blank separator is trimmed together with the
empty fields at the ends. -/
def fieldsLeft (separator : Char) (fields : List (List Char)) : List (List Char) :=
  if isBlank separator then atLeastOne ((fields.dropWhile (· = [])).rdropWhile (· = []))
  else fields

section Fields

variable {separator char : Char}

/-- A blank before a text is a separator, or belongs to the first field. -/
theorem fieldsOf_cons_of_isBlank (h : isBlank char = true) (chars : List Char) :
    fieldsOf separator (char :: chars) =
      if char = separator then [] :: fieldsOf separator chars else fieldsOf separator chars := by
  unfold fieldsOf
  split
  · rename_i heq
    rw [splitOn, if_pos heq]
    rfl
  · rename_i hne
    obtain ⟨piece, pieces, hchars, hcons⟩ := exists_splitOn_cons hne chars
    rw [hcons, hchars, List.map_cons, List.map_cons, trim_cons_of_isBlank h]

/-- A blank behind a text is a separator, or belongs to the last field. -/
theorem fieldsOf_append_singleton_of_isBlank (h : isBlank char = true) (chars : List Char) :
    fieldsOf separator (chars ++ [char]) =
      if char = separator then fieldsOf separator chars ++ [[]] else fieldsOf separator chars := by
  unfold fieldsOf
  split
  · rename_i heq
    rw [heq, splitOn_append, List.map_append]
    rfl
  · rename_i hne
    have hback : separator ∉ [char] := by simpa using Ne.symm hne
    obtain ⟨pieces, last, hfront, hsplit⟩ := exists_splitOn_append hback chars
    have hlast : trim (last ++ [char]) = trim last := trim_append_of_isBlank (by simpa using h) last
    rw [hsplit, hfront, List.map_append, List.map_append, List.map_singleton, List.map_singleton,
      hlast]

/-- Trimming the start takes the empty fields there along if the separator is a blank. -/
theorem fieldsOf_trimStart (separator : Char) (chars : List Char) :
    fieldsOf separator (trimStart chars) =
      if isBlank separator then atLeastOne ((fieldsOf separator chars).dropWhile (· = []))
      else fieldsOf separator chars := by
  induction chars with
  | nil => cases isBlank separator <;> rfl
  | cons char rest ih =>
    cases hchar : isBlank char with
    | true =>
      have hstart : trimStart (char :: rest) = trimStart rest := by simp [trimStart, hchar]
      rw [hstart, ih, fieldsOf_cons_of_isBlank hchar]
      by_cases heq : char = separator
      · simp [← heq, hchar]
      · rw [if_neg heq]
    | false =>
      have hstart : trimStart (char :: rest) = char :: rest := by simp [trimStart, hchar]
      rw [hstart]
      split
      · rename_i hblank
        have hne : char ≠ separator := by
          rintro rfl
          simp [hblank] at hchar
        obtain ⟨piece, pieces, -, hcons⟩ := exists_splitOn_cons hne rest
        have hfields : fieldsOf separator (char :: rest) =
            trim (char :: piece) :: pieces.map trim := by
          rw [fieldsOf, hcons, List.map_cons]
        have hfirst : trim (char :: piece) ≠ [] := by simp [trim_eq_nil_iff, hchar]
        rw [hfields, List.dropWhile_cons_of_neg (by simpa using hfirst)]
        rfl
      · rfl

/-- Trimming the end takes the empty fields there along if the separator is a blank. -/
theorem fieldsOf_trimEnd (separator : Char) (chars : List Char) :
    fieldsOf separator (trimEnd chars) =
      if isBlank separator then atLeastOne ((fieldsOf separator chars).rdropWhile (· = []))
      else fieldsOf separator chars := by
  induction chars using List.reverseRec with
  | nil => cases isBlank separator <;> rfl
  | append_singleton front char ih =>
    cases hchar : isBlank char with
    | true =>
      have hend : trimEnd (front ++ [char]) = trimEnd front :=
        trimEnd_append_of_isBlank (by simpa using hchar) front
      rw [hend, ih, fieldsOf_append_singleton_of_isBlank hchar]
      by_cases heq : char = separator
      · simp [← heq, hchar]
      · rw [if_neg heq]
    | false =>
      have hend : trimEnd (front ++ [char]) = front ++ [char] := by simp [trimEnd, hchar]
      rw [hend]
      split
      · rename_i hblank
        have hback : separator ∉ [char] := by
          rw [List.mem_singleton]
          rintro rfl
          simp [hblank] at hchar
        obtain ⟨pieces, last, -, hsplit⟩ := exists_splitOn_append hback front
        have hfields : fieldsOf separator (front ++ [char]) =
            pieces.map trim ++ [trim (last ++ [char])] := by
          rw [fieldsOf, hsplit, List.map_append]
          rfl
        have hlast : trim (last ++ [char]) ≠ [] := by simp [trim_eq_nil_iff, hchar]
        rw [hfields, List.rdropWhile_concat_neg _ _ _ (by simpa using hlast), atLeastOne,
          if_neg (by simp)]
      · rfl

end Fields

/-- The fields of a trimmed text are those that are left of the fields of the text. -/
theorem fieldsOf_trim (separator : Char) (chars : List Char) :
    fieldsOf separator (trim chars) = fieldsLeft separator (fieldsOf separator chars) := by
  rw [trim, fieldsOf_trimEnd, fieldsOf_trimStart, fieldsLeft]
  split
  · by_cases hnone : (fieldsOf separator chars).dropWhile (· = []) = []
    · rw [hnone]
      rfl
    · rw [atLeastOne, atLeastOne, if_neg hnone, atLeastOne]
  · rfl

/-! ## Fields that are lost -/

/-- Trimming takes a separator along: it is a blank, and an empty field stands at an end. -/
def LosesFields (separator : Char) (fields : List (List Char)) : Prop :=
  isBlank separator = true ∧ 2 ≤ fields.length ∧
    (fields.head? = some [] ∨ fields.getLast? = some [])

theorem length_fieldsLeft_lt {separator : Char} {fields : List (List Char)}
    (h : LosesFields separator fields) : (fieldsLeft separator fields).length < fields.length := by
  obtain ⟨hblank, hlength, hend⟩ := h
  rw [fieldsLeft, if_pos hblank, atLeastOne]
  split
  · exact hlength
  · rename_i hleft
    have hshorter (others : List (List Char)) :
        ((others.dropWhile (· = [])).rdropWhile (· = [])).length ≤ others.length :=
      (List.rdropWhile_prefix _ _).length_le.trans (List.dropWhile_suffix _).length_le
    rcases hend with hfirst | hlast
    · obtain ⟨rest, rfl⟩ := List.head?_eq_some_iff.1 hfirst
      rw [List.dropWhile_cons_of_pos (by simp)]
      exact Nat.lt_succ_of_le (hshorter rest)
    · obtain ⟨front, rfl⟩ := List.getLast?_eq_some_iff.1 hlast
      rw [List.dropWhile_append] at hleft ⊢
      split at hleft
      · exact absurd rfl hleft
      · rename_i hfront
        rw [if_neg hfront, List.rdropWhile_concat_pos _ _ _ (by simp), List.length_append]
        exact Nat.lt_succ_of_le (hshorter front)

theorem fieldsLeft_eq_self {separator : Char} {fields : List (List Char)} (hne : fields ≠ [])
    (h : ¬ LosesFields separator fields) : fieldsLeft separator fields = fields := by
  rw [fieldsLeft]
  split
  · rename_i hblank
    rcases fields with _ | ⟨field, _ | ⟨second, rest⟩⟩
    · exact absurd rfl hne
    · cases field <;> rfl
    · obtain ⟨hfirst, hlast⟩ : field ≠ [] ∧ (second :: rest).getLast? ≠ some [] := by
        simpa [LosesFields, hblank] using h
      rw [List.dropWhile_cons_of_neg (by simpa using hfirst)]
      have hback : (field :: second :: rest).rdropWhile (· = []) = field :: second :: rest := by
        rw [List.rdropWhile_eq_self_iff]
        intro hcons hempty
        apply hlast
        rw [← List.getLast?_cons_cons, List.getLast?_eq_some_getLast hcons]
        simpa using hempty
      rw [hback]
      rfl
  · rfl

end Text

namespace Extraction

open Text

/-! ## Positional extraction -/

/-- What some fields of the settings on a line have at an index. -/
def fieldAt (index : Nat) (separator : Char) (settings : List Char) (line : Nat)
    (fields : List (List Char)) : Except LogError Axis :=
  match fields[index]? with
  | some found => .ok (.point (.ofField found))
  | none => .error (.missingField line (String.ofList (trim settings)) index separator)

/-- Fields that are joined by a separator are found again at their own indices. -/
def IsPositional (separator : Char) (fields : List (List Char)) : Prop :=
  ∀ index line, (field index separator).extract ([separator].intercalate fields) line =
    fieldAt index separator ([separator].intercalate fields) line fields

section FieldAt

variable {index : Nat} {separator : Char} {settings : List Char} {line : Nat}

/-- Blanks around fields make no difference. -/
theorem fieldAt_map_trim (fields : List (List Char)) :
    fieldAt index separator settings line (fields.map trim) =
      fieldAt index separator settings line fields := by
  unfold fieldAt
  rw [List.getElem?_map]
  cases fields[index]? with
  | none => rfl
  | some found => simp [Setting.ofField]

theorem extract_field_eq :
    (field index separator).extract settings line =
      fieldAt index separator settings line (fieldsLeft separator (fieldsOf separator settings)) := by
  rw [← fieldsOf_trim, fieldsOf, fieldAt_map_trim]
  rfl

theorem fieldAt_isOk_iff {fields : List (List Char)} :
    (fieldAt index separator settings line fields).isOk = true ↔ index < fields.length := by
  unfold fieldAt
  cases hfound : fields[index]? with
  | none => simpa [Except.isOk, Except.toBool] using hfound
  | some found => simpa [Except.isOk, Except.toBool] using (List.getElem?_eq_some_iff.1 hfound).1

end FieldAt

/-- The rule for one field takes from joined fields the one at its index among the fields that are
left when the settings are trimmed. These are all fields, so that each is found at its own index,
unless the separator is a blank and the first or the last of several fields is blank. -/
theorem extract_field_joined {separator : Char} {fields : List (List Char)} (hne : fields ≠ [])
    (hfields : ∀ field ∈ fields, separator ∉ field) :
    (∀ index line, (field index separator).extract ([separator].intercalate fields) line =
      fieldAt index separator ([separator].intercalate fields) line
        (fieldsLeft separator (fields.map trim))) ∧
    (IsPositional separator fields ↔ ¬ LosesFields separator (fields.map trim)) := by
  have hextract (index line : Nat) :
      (field index separator).extract ([separator].intercalate fields) line =
        fieldAt index separator ([separator].intercalate fields) line
          (fieldsLeft separator (fields.map trim)) := by
    rw [extract_field_eq, fieldsOf, splitOn_intercalate hne hfields]
  refine ⟨hextract, ?_⟩
  constructor
  · intro hpositional hloses
    have hshort := length_fieldsLeft_lt hloses
    have hsame := hpositional (fieldsLeft separator (fields.map trim)).length 0
    rw [hextract, ← fieldAt_map_trim fields] at hsame
    have hok := congrArg (Except.isOk · = true) hsame
    simp only [fieldAt_isOk_iff, List.length_map] at hok hshort
    simp [hshort] at hok
  · intro hkeeps index line
    rw [hextract, fieldsLeft_eq_self (by simpa using hne) hkeeps, fieldAt_map_trim]

/-- Three fields, the first of them empty. -/
def unnamedFields : List (List Char) := ["", "5", " 7"].map String.toList

theorem extract_field_joined_unnamedFields :
    unnamedFields ≠ [] ∧ (∀ field ∈ unnamedFields, '_' ∉ field ∧ '\t' ∉ field) ∧
      IsPositional '_' unnamedFields ∧ ¬ IsPositional '\t' unnamedFields ∧
      (field 1 '\t').extract (['\t'].intercalate unnamedFields) 1 =
        .ok (.point (.number ⟨0x401c000000000000⟩)) := by
  have hne : unnamedFields ≠ [] := by decide
  have hfields : ∀ field ∈ unnamedFields, '_' ∉ field ∧ '\t' ∉ field := by decide
  have hlow := extract_field_joined hne fun field hfield ↦ (hfields field hfield).1
  have htab := extract_field_joined hne fun field hfield ↦ (hfields field hfield).2
  have hkeeps : ¬ LosesFields '_' (unnamedFields.map trim) := by
    rintro ⟨hblank, -⟩
    exact absurd hblank (by decide)
  have hloses : LosesFields '\t' (unnamedFields.map trim) := ⟨by decide, by decide, by decide⟩
  have hsecond : fieldAt 1 '\t' (['\t'].intercalate unnamedFields) 1
      (fieldsLeft '\t' (unnamedFields.map trim)) =
        .ok (.point (.number ⟨0x401c000000000000⟩)) := by
    decide +kernel
  exact ⟨hne, hfields, hlow.2.2 hkeeps, fun hpositional ↦ htab.2.1 hpositional hloses,
    (htab.1 1 1).trans hsecond⟩

/-- Not every separator lets each field be found at its own index. -/
theorem not_forall_isPositional :
    ¬ ∀ (separator : Char) (fields : List (List Char)), fields ≠ [] →
      (∀ field ∈ fields, separator ∉ field ∧ '\n' ∉ field ∧ '\r' ∉ field) →
        IsPositional separator fields := by
  intro hall
  have hpositional := hall '\t' (["", "5", "7"].map String.toList) (by decide) (by decide) 1 1
  exact absurd hpositional (by decide +kernel)

end Extraction

end TrialSeries
