import Mathlib.Data.List.Basic
import Mathlib.Data.List.TakeWhile
import Mathlib.Tactic.SplitIfs
import TrialSeries.Json.Number
import TrialSeries.Json.Quoted
import TrialSeries.Proofs.TextPieces

/-!
# Tokens of JSON read back

The escaped form of a text is read back as the text, whatever its characters are. A number is read
up to its end: what follows it plays no part if it does not go on with a digit, a point or an
exponent.
-/

namespace TrialSeries

namespace Text

theorem hexDigit?_digitChar {n : Nat} (h : n < 16) : hexDigit? (Nat.digitChar n) = some n := by
  have hall : ∀ n < 16, hexDigit? (Nat.digitChar n) = some n := by decide
  exact hall n h

end Text

namespace Json

/-! ## Texts -/

/-- No character is half of a surrogate pair. -/
theorem not_half_toNat (char : Char) :
    isHighHalf char.toNat = false ∧ isLowHalf char.toNat = false := by
  have hvalid := char.valid
  simp only [UInt32.isValidChar, Nat.isValidChar, ← Char.toNat_val] at hvalid ⊢
  simp only [isHighHalf, isLowHalf, Bool.and_eq_false_iff, decide_eq_false_iff_not]
  omega

theorem joinCodes_cons (char : Char) (codes : List Nat) :
    joinCodes (char.toNat :: codes) = (joinCodes codes).map (char :: ·) := by
  obtain ⟨hhigh, hlow⟩ := not_half_toNat char
  cases codes with
  | nil => simp [joinCodes, hhigh, hlow]
  | cons low rest => simp [joinCodes, hhigh, hlow]

theorem joinCodes_map_toNat (chars : List Char) :
    joinCodes (chars.map Char.toNat) = some chars := by
  induction chars with
  | nil => rfl
  | cons char chars ih => rw [List.map_cons, joinCodes_cons, ih, Option.map_some]

theorem codes_control {code : Nat} (h : code < 0x20) (rest : List Char) :
    codes (['\\', 'u', '0', '0'] ++ Text.hexByte code ++ rest) =
      (codes rest).map fun (more, rest) ↦ (code :: more, rest) := by
  have hhigh := Text.hexDigit?_digitChar (show code / 16 < 16 by omega)
  have hlow := Text.hexDigit?_digitChar (show code % 16 < 16 by omega)
  have hzero : Text.hexDigit? '0' = some 0 := by decide
  have hcode : code / 16 * 16 + code % 16 = code := by omega
  rw [Text.hexByte]
  simp only [List.cons_append, List.nil_append, codes, hexCode, hhigh, hlow, hzero]
  cases codes rest <;> simp [hcode]

theorem codes_letter {letter char : Char} (h : unescapeLetter letter = some char)
    (rest : List Char) :
    codes ('\\' :: letter :: rest) =
      (codes rest).map fun (more, rest) ↦ (char.toNat :: more, rest) := by
  have hletter : letter ≠ 'u' := by
    rintro rfl
    cases h
  rw [codes.eq_def]
  split
  · rename_i heq
    cases heq
  · rename_i heq
    cases heq
  · rename_i heq
    cases heq
    exact absurd rfl hletter
  · rename_i heq
    cases heq
    rw [h]
    cases codes rest <;> rfl
  · rename_i hnone heq
    cases heq
    exact absurd rfl (hnone letter rest rfl)

/-- A character other than the quote, the backslash and the control characters stands for itself. -/
theorem codes_cons {char : Char} (hquote : char ≠ '"') (hbackslash : char ≠ '\\')
    (hcontrol : ¬ char.toNat < 0x20) (rest : List Char) :
    codes (char :: rest) = (codes rest).map fun (more, rest) ↦ (char.toNat :: more, rest) := by
  rw [codes.eq_def]
  split
  · rename_i heq
    cases heq
  · rename_i heq
    cases heq
    exact absurd rfl hquote
  · rename_i heq
    cases heq
    exact absurd rfl hbackslash
  · rename_i heq
    cases heq
    exact absurd rfl hbackslash
  · rename_i heq
    cases heq
    rw [if_neg (by simp [hbackslash, hcontrol])]
    cases codes rest <;> rfl

theorem codes_escapeChar_append (char : Char) (rest : List Char) :
    codes (escapeChar char ++ rest) =
      (codes rest).map fun (more, rest) ↦ (char.toNat :: more, rest) := by
  unfold escapeChar
  split_ifs with hquote hbackslash hbackspace htab hnewline hfeed hreturn hcontrol
  iterate 7
    · subst char
      exact codes_letter rfl rest
  · exact codes_control hcontrol rest
  · exact codes_cons hquote hbackslash hcontrol rest

theorem codes_flatMap_escapeChar (chars rest : List Char) :
    codes (chars.flatMap escapeChar ++ '"' :: rest) = some (chars.map Char.toNat, rest) := by
  induction chars with
  | nil => simp [codes]
  | cons char chars ih =>
    rw [List.flatMap_cons, List.append_assoc, codes_escapeChar_append, ih]
    rfl

theorem quotedContent_escaped (content : String) (rest : List Char) :
    quotedContent (content.toList.flatMap escapeChar ++ '"' :: rest) =
      some (some content, rest) := by
  rw [quotedContent, codes_flatMap_escapeChar]
  simp [joinCodes_map_toNat]

/-! ## Numbers -/

/-- A number does not go on into a text. -/
def EndsNumber (rest : List Char) : Prop :=
  ∀ char ∈ rest.head?, char.isDigit = false ∧ char ≠ '.' ∧ char ≠ 'e' ∧ char ≠ 'E'

section Numbers

variable {chars after rest : List Char}

theorem takeWhile_isDigit_append (h : EndsNumber rest) (chars : List Char) :
    (chars ++ rest).takeWhile Char.isDigit = chars.takeWhile Char.isDigit :=
  Text.takeWhile_append_of_head? (fun char hchar ↦ (h char hchar).1) chars

theorem dropWhile_isDigit_append (h : EndsNumber rest) (chars : List Char) :
    (chars ++ rest).dropWhile Char.isDigit = chars.dropWhile Char.isDigit ++ rest :=
  Text.dropWhile_append_of_head? (fun char hchar ↦ (h char hchar).1) chars

theorem takeWhole_append (hrest : EndsNumber rest) {whole : List Char}
    (h : takeWhole chars = some (whole, after)) :
    takeWhole (chars ++ rest) = some (whole, after ++ rest) := by
  unfold takeWhole at h ⊢
  rw [takeWhile_isDigit_append hrest, dropWhile_isDigit_append hrest]
  dsimp only at h ⊢
  split at h
  · cases h
  · rename_i hdigits
    cases h
    rw [if_neg hdigits]

theorem takePlaces_of_ne {char : Char} (h : char ≠ '.') (rest : List Char) :
    takePlaces (char :: rest) = some ([], char :: rest) := by
  unfold takePlaces
  split
  · rename_i heq
    cases heq
    exact absurd rfl h
  · rfl

theorem takePlaces_append (hrest : EndsNumber rest) {places : List Char}
    (h : takePlaces chars = some (places, after)) :
    takePlaces (chars ++ rest) = some (places, after ++ rest) := by
  cases chars with
  | nil =>
    cases h
    cases rest with
    | nil => rfl
    | cons char rest => exact takePlaces_of_ne (hrest char rfl).2.1 rest
  | cons char chars =>
    by_cases hpoint : char = '.'
    · subst hpoint
      simp only [takePlaces, List.cons_append] at h ⊢
      rw [takeWhile_isDigit_append hrest, dropWhile_isDigit_append hrest]
      split at h
      · cases h
      · rename_i hdigits
        cases h
        rw [if_neg hdigits]
    · rw [takePlaces_of_ne hpoint] at h
      cases h
      exact takePlaces_of_ne hpoint _

theorem takeExponentSign_append {chars : List Char} (h : chars ≠ []) (rest : List Char) :
    takeExponentSign (chars ++ rest) =
      ((takeExponentSign chars).1, (takeExponentSign chars).2 ++ rest) := by
  obtain ⟨char, chars, rfl⟩ := List.exists_cons_of_ne_nil h
  unfold takeExponentSign
  split
  · rename_i heq
    cases heq
    rfl
  · rename_i heq
    cases heq
    rfl
  · rename_i hminus hplus
    split
    · rename_i heq
      cases heq
      exact absurd rfl (hminus _)
    · rename_i heq
      cases heq
      exact absurd rfl (hplus _)
    · rfl

theorem takeExponent_append (hrest : EndsNumber rest) {exponent : Option Int}
    (h : takeExponent chars = some (exponent, after)) :
    takeExponent (chars ++ rest) = some (exponent, after ++ rest) := by
  cases chars with
  | nil =>
    cases h
    cases rest with
    | nil => rfl
    | cons char rest =>
      obtain ⟨-, -, hlower, hupper⟩ := hrest char rfl
      simp [takeExponent, hlower, hupper]
  | cons mark chars =>
    simp only [takeExponent, List.cons_append] at h ⊢
    split at h
    · rename_i hmark
      have hne : chars ≠ [] := by
        rintro rfl
        cases h
      rw [if_pos hmark, takeExponentSign_append hne]
      dsimp only at h ⊢
      rw [takeWhile_isDigit_append hrest, dropWhile_isDigit_append hrest]
      split at h
      · cases h
      · rename_i hdigits
        cases h
        rw [if_neg hdigits]
    · rename_i hmark
      cases h
      rw [if_neg hmark]
      rfl

theorem unsignedNumber_append (hrest : EndsNumber rest) {negative : Bool} {data : Data}
    (h : unsignedNumber negative chars = some (data, after)) :
    unsignedNumber negative (chars ++ rest) = some (data, after ++ rest) := by
  unfold unsignedNumber at h ⊢
  simp only [bind, Option.bind_eq_some_iff] at h
  obtain ⟨⟨whole, afterWhole⟩, hwhole, ⟨places, afterPlaces⟩, hplaces, ⟨exponent, last⟩, hexponent,
    h⟩ := h
  cases h
  simp only [bind, takeWhole_append hrest hwhole, takePlaces_append hrest hplaces,
    takeExponent_append hrest hexponent, Option.bind_some]

/-- A number starts with a sign or a digit. -/
theorem exists_cons_of_takeWhole {whole : List Char} (h : takeWhole chars = some (whole, after)) :
    ∃ char tail, chars = char :: tail ∧ char.isDigit = true := by
  cases chars with
  | nil => cases h
  | cons char tail =>
    refine ⟨char, tail, rfl, ?_⟩
    by_contra hdigit
    simp [takeWhole, hdigit] at h

theorem exists_cons_of_unsignedNumber {negative : Bool} {data : Data}
    (h : unsignedNumber negative chars = some (data, after)) :
    ∃ char tail, chars = char :: tail ∧ char.isDigit = true := by
  unfold unsignedNumber at h
  simp only [bind, Option.bind_eq_some_iff] at h
  obtain ⟨⟨whole, afterWhole⟩, hwhole, -⟩ := h
  exact exists_cons_of_takeWhole hwhole

theorem number_of_ne {char : Char} (h : char ≠ '-') (rest : List Char) :
    number (char :: rest) = unsignedNumber false (char :: rest) := by
  unfold number
  split
  · rename_i heq
    cases heq
    exact absurd rfl h
  · rfl

theorem exists_cons_of_number {data : Data} (h : number chars = some (data, after)) :
    ∃ char tail, chars = char :: tail ∧ (char = '-' ∨ char.isDigit = true) := by
  cases chars with
  | nil => cases h
  | cons char tail =>
    refine ⟨char, tail, rfl, ?_⟩
    by_cases hminus : char = '-'
    · exact .inl hminus
    · rw [number_of_ne hminus] at h
      obtain ⟨_, _, heq, hdigit⟩ := exists_cons_of_unsignedNumber h
      cases heq
      exact .inr hdigit

theorem number_append (hrest : EndsNumber rest) {data : Data}
    (h : number chars = some (data, after)) :
    number (chars ++ rest) = some (data, after ++ rest) := by
  obtain ⟨char, tail, rfl, -⟩ := exists_cons_of_number h
  by_cases hminus : char = '-'
  · subst hminus
    exact unsignedNumber_append hrest h
  · rw [number_of_ne hminus] at h
    rw [List.cons_append, number_of_ne hminus]
    exact unsignedNumber_append hrest h

end Numbers

/-! ## Integers -/

theorem le_ofDigitChars (digits : List Char) (start : Nat) :
    start ≤ Nat.ofDigitChars 10 digits start := by
  rw [Nat.ofDigitChars_eq_ofDigitChars_zero]
  have hpos : 0 < 10 ^ digits.length := Nat.pow_pos (by decide)
  have := Nat.le_mul_of_pos_left start hpos
  omega

/-- Digits that fit are collected in full. -/
theorem collectWhole_eq {digits : List Char} {start : Nat}
    (h : Nat.ofDigitChars 10 digits start < UInt64.size) :
    collectWhole start digits = ⟨Nat.ofDigitChars 10 digits start, 0⟩ := by
  induction digits generalizing start with
  | nil => simp [collectWhole]
  | cons digit digits ih =>
    rw [Nat.ofDigitChars_cons, Nat.mul_comm] at h ⊢
    have hfits := Nat.lt_of_le_of_lt (le_ofDigitChars digits _) h
    rw [collectWhole, if_pos hfits]
    exact ih h

theorem eq_zero_of_head?_toDigits {n : Nat} (h : (Nat.toDigits 10 n).head? = some '0') : n = 0 := by
  induction n using Nat.base_induction 10 (by decide) with
  | single digit hdigit =>
    rw [Nat.toDigits_of_lt_base hdigit] at h
    have hall : ∀ digit < 10, Nat.digitChar digit = '0' → digit = 0 := by decide
    exact hall digit hdigit (Option.some.inj h)
  | digit front digit hdigit hpos ih =>
    rw [← Nat.toDigits_append_toDigits (by decide) hpos hdigit,
      List.head?_append_of_ne_nil _ Nat.toDigits_ne_nil] at h
    have := ih h
    omega

theorem takeWhole_toDigits (n : Nat) :
    takeWhole (Nat.toDigits 10 n) = some (Nat.toDigits 10 n, []) := by
  have hall : ∀ char ∈ Nat.toDigits 10 n, char.isDigit = true := fun _ h ↦
    Nat.isDigit_of_mem_toDigits (by decide) (by decide) h
  have htake := List.takeWhile_eq_self_iff.2 hall
  have hdrop := List.dropWhile_eq_nil_iff.2 hall
  have hleading : ¬ (Nat.toDigits 10 n = [] ∨
      (Nat.toDigits 10 n).head? = some '0' ∧ 1 < (Nat.toDigits 10 n).length) := by
    rintro (hnil | ⟨hhead, hlength⟩)
    · exact Nat.toDigits_ne_nil hnil
    · rw [eq_zero_of_head?_toDigits hhead] at hlength
      exact absurd hlength (by decide)
  unfold takeWhole
  rw [htake, hdrop]
  exact if_neg hleading

theorem number_natural {n : Nat} (h : n < UInt64.size) :
    number (toString (n : Int)).toList = some (.integer n, []) := by
  have hchars : (toString (n : Int)).toList = Nat.toDigits 10 n := Nat.toList_repr
  have hcollect : collectWhole 0 (Nat.toDigits 10 n) = ⟨n, 0⟩ := by
    rw [collectWhole_eq (by rwa [Nat.ofDigitChars_ten_toDigits]), Nat.ofDigitChars_ten_toDigits]
  have hnumber : unsignedNumber false (Nat.toDigits 10 n) = some (.integer n, []) := by
    simp only [unsignedNumber, bind, takeWhole_toDigits, Option.bind_some, takePlaces,
      takeExponent, integerValue, hcollect]
    rfl
  rw [hchars]
  obtain ⟨char, tail, heq, hdigit⟩ := exists_cons_of_unsignedNumber hnumber
  rw [heq] at hnumber ⊢
  have hminus : char ≠ '-' := by
    rintro rfl
    cases hdigit
  rw [number_of_ne hminus, hnumber]

end Json

end TrialSeries
