import Mathlib.Data.List.DropRight
import TrialSeries.Decimal.Literal
import TrialSeries.Proofs.TextPieces

/-!
# The grammar of number literals

A literal is a sign or none, and then a word for an infinity or a NaN, or digits with perhaps a point
and an exponent. Exactly the literals have a value, and none of them holds a blank.
-/

namespace TrialSeries

namespace Literal

/-! ## Literals -/

inductive IsSign : List Char → Prop where
  | absent : IsSign []
  | plus : IsSign ['+']
  | minus : IsSign ['-']

def AreDigits (chars : List Char) : Prop := ∀ char ∈ chars, char.isDigit = true

/-- Digits, or digits around a point that has one at least on one of its sides. -/
inductive IsCoefficient : List Char → Prop where
  | whole {digits : List Char} (hne : digits ≠ []) (hdigits : AreDigits digits) :
      IsCoefficient digits
  | pointed {whole places : List Char} (hne : whole ≠ [] ∨ places ≠ [])
      (hwhole : AreDigits whole) (hplaces : AreDigits places) :
      IsCoefficient (whole ++ '.' :: places)

/-- An exponent with its mark, or none. -/
inductive IsExponent : List Char → Prop where
  | absent : IsExponent []
  | marked {mark : Char} {sign digits : List Char} (hmark : mark = 'e' ∨ mark = 'E')
      (hsign : IsSign sign) (hne : digits ≠ []) (hdigits : AreDigits digits) :
      IsExponent (mark :: (sign ++ digits))

/-- The words for an infinity and for a NaN, in small letters. -/
def words : List (List Char) := ["inf".toList, "infinity".toList, "nan".toList]

/-- A literal behind its sign. -/
inductive IsUnsigned : List Char → Prop where
  | word {chars : List Char} (h : chars.map Char.toLower ∈ words) : IsUnsigned chars
  | decimal {coefficient exponent : List Char} (hcoefficient : IsCoefficient coefficient)
      (hexponent : IsExponent exponent) : IsUnsigned (coefficient ++ exponent)

inductive IsLiteral : List Char → Prop where
  | signed {sign chars : List Char} (hsign : IsSign sign) (hchars : IsUnsigned chars) :
      IsLiteral (sign ++ chars)

/-! ## What stands in a literal -/

/-- The characters of a sign. -/
def isSignMark (char : Char) : Bool := char = '+' || char = '-'

theorem isSignMark_of_isDigit {char : Char} (h : char.isDigit = true) : isSignMark char = false := by
  cases hmark : isSignMark char with
  | false => rfl
  | true =>
    rcases by simpa [isSignMark] using hmark with rfl | rfl
    · cases h
    · cases h

theorem IsCoefficient.exists_cons {chars : List Char} (h : IsCoefficient chars) :
    ∃ char rest, chars = char :: rest ∧ (char.isDigit = true ∨ char = '.') := by
  cases h with
  | whole hne hdigits =>
    obtain ⟨digit, rest, rfl⟩ := List.exists_cons_of_ne_nil hne
    exact ⟨digit, rest, rfl, .inl (hdigits digit List.mem_cons_self)⟩
  | @pointed whole places hne hwhole hplaces =>
    cases whole with
    | nil => exact ⟨'.', places, rfl, .inr rfl⟩
    | cons digit whole => exact ⟨digit, _, rfl, .inl (hwhole digit List.mem_cons_self)⟩

/-- What follows a sign does not begin with one. -/
theorem IsUnsigned.exists_cons {chars : List Char} (h : IsUnsigned chars) :
    ∃ char rest, chars = char :: rest ∧ isSignMark char = false := by
  cases h with
  | word hword =>
    cases chars with
    | nil => exact absurd hword (by decide)
    | cons char rest =>
      refine ⟨char, rest, rfl, ?_⟩
      cases hmark : isSignMark char with
      | false => rfl
      | true =>
        rcases by simpa [isSignMark] using hmark with rfl | rfl
        · simp [words] at hword
        · simp [words] at hword
  | decimal hcoefficient _ =>
    obtain ⟨char, rest, rfl, hchar⟩ := hcoefficient.exists_cons
    refine ⟨char, _, rfl, ?_⟩
    rcases hchar with hdigit | rfl
    · exact isSignMark_of_isDigit hdigit
    · rfl

/-! ## Signs and digits at the front -/

theorem exists_takeSign (chars : List Char) :
    ∃ sign, IsSign sign ∧ chars = sign ++ (takeSign chars).2 := by
  unfold takeSign
  split
  · exact ⟨['-'], .minus, rfl⟩
  · exact ⟨['+'], .plus, rfl⟩
  · exact ⟨[], .absent, rfl⟩

theorem takeSign_append {sign : List Char} (h : IsSign sign) {char : Char}
    (hchar : isSignMark char = false) (rest : List Char) :
    (takeSign (sign ++ char :: rest)).2 = char :: rest := by
  cases h with
  | plus => rfl
  | minus => rfl
  | absent =>
    rw [List.nil_append, takeSign]
    · rintro tail heq
      cases heq
      cases hchar
    · rintro tail heq
      cases heq
      cases hchar

theorem areDigits_takeWhile (chars : List Char) : AreDigits (chars.takeWhile Char.isDigit) :=
  fun _ hchar ↦ List.mem_takeWhile_imp hchar

section Digits

variable {digits rest : List Char} (hdigits : AreDigits digits)
  (hrest : ∀ char ∈ rest.head?, char.isDigit = false)

include hdigits hrest

theorem takeWhile_digits_append : (digits ++ rest).takeWhile Char.isDigit = digits := by
  rw [Text.takeWhile_append_of_head? hrest, List.takeWhile_eq_self_iff.2 hdigits]

theorem dropWhile_digits_append : (digits ++ rest).dropWhile Char.isDigit = rest := by
  rw [Text.dropWhile_append_of_head? hrest, List.dropWhile_eq_nil_iff.2 hdigits, List.nil_append]

end Digits

/-! ## Reading -/

theorem isSome_exponent?_iff {chars : List Char} :
    (exponent? chars).isSome = true ↔ IsExponent chars := by
  constructor
  · intro h
    cases chars with
    | nil => exact .absent
    | cons mark rest =>
      obtain ⟨sign, hsign, hrest⟩ := exists_takeSign rest
      simp only [exponent?] at h
      split at h
      · rename_i hgiven
        obtain ⟨hmark, hne, hdigits⟩ := hgiven
        rw [hrest]
        exact .marked hmark hsign hne (List.all_eq_true.1 hdigits)
      · cases h
  · intro h
    cases h with
    | absent => rfl
    | @marked mark sign digits hmark hsign hne hdigits =>
      obtain ⟨digit, rest, rfl⟩ := List.exists_cons_of_ne_nil hne
      have htake : (takeSign (sign ++ digit :: rest)).2 = digit :: rest :=
        takeSign_append hsign (isSignMark_of_isDigit (hdigits digit List.mem_cons_self)) rest
      have hgiven : (mark = 'e' ∨ mark = 'E') ∧ digit :: rest ≠ [] ∧
          (digit :: rest).all Char.isDigit = true :=
        ⟨hmark, hne, List.all_eq_true.2 hdigits⟩
      simp only [exponent?, htake]
      rw [if_pos hgiven]
      rfl

theorem IsExponent.head?_ne {chars : List Char} (h : IsExponent chars) :
    ∀ char ∈ chars.head?, char.isDigit = false ∧ char ≠ '.' := by
  cases h with
  | absent => nofun
  | marked hmark _ _ _ =>
    intro char hchar
    cases hchar
    rcases hmark with rfl | rfl
    · decide
    · decide

/-- Where a point follows the digits, those behind it count as well. -/
theorem isSome_decimal?_of_point {chars rest : List Char}
    (h : chars.dropWhile Char.isDigit = '.' :: rest) :
    (decimal? chars).isSome = true ↔
      (chars.takeWhile Char.isDigit ≠ [] ∨ rest.takeWhile Char.isDigit ≠ []) ∧
        IsExponent (rest.dropWhile Char.isDigit) := by
  rw [← not_and_or, ← isSome_exponent?_iff]
  simp only [decimal?, h]
  split
  · rename_i hnone
    simp [hnone]
  · rename_i hsome
    rw [Option.isSome_map, and_iff_right hsome]

theorem isSome_decimal?_of_no_point {chars : List Char}
    (h : ∀ rest, chars.dropWhile Char.isDigit ≠ '.' :: rest) :
    (decimal? chars).isSome = true ↔
      chars.takeWhile Char.isDigit ≠ [] ∧ IsExponent (chars.dropWhile Char.isDigit) := by
  rw [← isSome_exponent?_iff, decimal?]
  split
  rename_i places rest hparts
  split at hparts
  · rename_i behind hbehind
    exact absurd hbehind (h behind)
  · cases hparts
    simp only [and_true]
    split
    · rename_i hnone
      simp [hnone]
    · rename_i hsome
      rw [Option.isSome_map, and_iff_right hsome]

theorem isSome_decimal?_iff {chars : List Char} :
    (decimal? chars).isSome = true ↔
      ∃ coefficient exponent, IsCoefficient coefficient ∧ IsExponent exponent ∧
        chars = coefficient ++ exponent := by
  have hchars : chars.takeWhile Char.isDigit ++ chars.dropWhile Char.isDigit = chars :=
    List.takeWhile_append_dropWhile
  constructor
  · intro h
    by_cases hpoint : ∃ rest, chars.dropWhile Char.isDigit = '.' :: rest
    · obtain ⟨rest, hrest⟩ := hpoint
      obtain ⟨hne, hexponent⟩ := (isSome_decimal?_of_point hrest).1 h
      refine ⟨chars.takeWhile Char.isDigit ++ '.' :: rest.takeWhile Char.isDigit,
        rest.dropWhile Char.isDigit, ?_, hexponent, ?_⟩
      · exact .pointed hne (areDigits_takeWhile chars) (areDigits_takeWhile rest)
      · rw [List.append_assoc, List.cons_append, List.takeWhile_append_dropWhile, ← hrest, hchars]
    · obtain ⟨hne, hexponent⟩ := (isSome_decimal?_of_no_point (not_exists.1 hpoint)).1 h
      exact ⟨_, _, .whole hne (areDigits_takeWhile chars), hexponent, hchars.symm⟩
  · rintro ⟨coefficient, exponent, hcoefficient, hexponent, rfl⟩
    have hdigit : ∀ char ∈ exponent.head?, char.isDigit = false :=
      fun char hchar ↦ (hexponent.head?_ne char hchar).1
    cases hcoefficient with
    | whole hne hdigits =>
      rw [isSome_decimal?_of_no_point]
      · rw [takeWhile_digits_append hdigits hdigit, dropWhile_digits_append hdigits hdigit]
        exact ⟨hne, hexponent⟩
      · rintro rest heq
        rw [dropWhile_digits_append hdigits hdigit] at heq
        exact (hexponent.head?_ne '.' (by rw [heq]; rfl)).2 rfl
    | @pointed whole places hne hwhole hplaces =>
      have hpoint : ∀ char ∈ ('.' :: (places ++ exponent)).head?, char.isDigit = false := by
        rintro _ ⟨⟩
        rfl
      rw [List.append_assoc, List.cons_append,
        isSome_decimal?_of_point (dropWhile_digits_append hwhole hpoint),
        takeWhile_digits_append hwhole hpoint, takeWhile_digits_append hplaces hdigit,
        dropWhile_digits_append hplaces hdigit]
      exact ⟨hne, hexponent⟩

theorem isSome_magnitude?_iff {negative : Bool} {chars : List Char} :
    (magnitude? negative chars).isSome = true ↔ IsUnsigned chars := by
  have hword (word : String) :
      String.ofList (chars.map Char.toLower) = word ↔ chars.map Char.toLower = word.toList := by
    constructor
    · intro heq
      rw [← heq, String.toList_ofList]
    · intro heq
      rw [heq, String.ofList_toList]
  constructor
  · intro h
    unfold magnitude? at h
    split at h
    · rename_i hinf
      exact .word (by simp [words, (hword _).1 hinf])
    · rename_i hinf
      exact .word (by simp [words, (hword _).1 hinf])
    · rename_i hnan
      exact .word (by simp [words, (hword _).1 hnan])
    · rw [Option.isSome_map, isSome_decimal?_iff] at h
      obtain ⟨coefficient, exponent, hcoefficient, hexponent, rfl⟩ := h
      exact .decimal hcoefficient hexponent
  · intro h
    unfold magnitude?
    split
    · rfl
    · rfl
    · rfl
    · rename_i hinf hinfinity hnan
      cases h with
      | word hmem =>
        rw [words, List.mem_cons, List.mem_cons, List.mem_singleton, ← hword, ← hword,
          ← hword] at hmem
        rcases hmem with heq | heq | heq
        · exact absurd heq hinf
        · exact absurd heq hinfinity
        · exact absurd heq hnan
      | decimal hcoefficient hexponent =>
        rw [Option.isSome_map, isSome_decimal?_iff]
        exact ⟨_, _, hcoefficient, hexponent, rfl⟩

/-- Exactly the literals have a value. -/
theorem isSome_parse?_iff {chars : List Char} :
    (Binary64.parse? chars).isSome = true ↔ IsLiteral chars := by
  have hparse : (Binary64.parse? chars).isSome = true ↔ IsUnsigned (takeSign chars).2 :=
    isSome_magnitude?_iff
  rw [hparse]
  constructor
  · intro h
    obtain ⟨sign, hsign, hchars⟩ := exists_takeSign chars
    rw [hchars]
    exact .signed hsign h
  · intro h
    cases h with
    | @signed sign chars hsign hchars =>
      obtain ⟨char, rest, rfl, hchar⟩ := hchars.exists_cons
      rw [takeSign_append hsign hchar]
      exact hchars

theorem parse?_eq_none_iff {chars : List Char} :
    Binary64.parse? chars = none ↔ ¬ IsLiteral chars := by
  rw [← isSome_parse?_iff, Bool.not_eq_true, Option.isSome_eq_false_iff, Option.isNone_iff_eq_none]

theorem isLiteral_of_parse? {chars : List Char} {value : Binary64}
    (h : Binary64.parse? chars = some value) : IsLiteral chars := by
  rw [← isSome_parse?_iff, h]
  rfl

/-! ## Blanks -/

theorem isBlank_iff {char : Char} :
    Text.isBlank char = true ↔
      ∃ range ∈ Text.blankRanges, range.1 ≤ char.toNat ∧ char.toNat ≤ range.2 := by
  simp only [Text.isBlank, Text.inRanges, List.any_eq_true, Bool.and_eq_true, decide_eq_true_eq]

theorem isBlank_of_isDigit {char : Char} (h : char.isDigit = true) :
    Text.isBlank char = false := by
  have hranges : ∀ range ∈ Text.blankRanges, range.2 < 48 ∨ 57 < range.1 := by decide
  have hdigit : 48 ≤ char.toNat ∧ char.toNat ≤ 57 := by
    simpa [Char.isDigit, UInt32.le_iff_toNat_le] using h
  rw [Bool.eq_false_iff, ne_eq, isBlank_iff]
  rintro ⟨range, hrange, hchar⟩
  have := hranges range hrange
  omega

/-- A blank is no letter. -/
theorem toLower_of_isBlank {char : Char} (h : Text.isBlank char = true) : char.toLower = char := by
  have hranges : ∀ range ∈ Text.blankRanges, range.2 < 65 ∨ 90 < range.1 := by decide
  obtain ⟨range, hrange, hchar⟩ := isBlank_iff.1 h
  have := hranges range hrange
  apply dif_neg
  rintro ⟨hge, hle⟩
  have hge' : 65 ≤ char.toNat := hge
  have hle' : char.toNat ≤ 90 := hle
  omega

theorem isBlank_of_mem_sign {chars : List Char} (h : IsSign chars) :
    ∀ char ∈ chars, Text.isBlank char = false := by
  cases h with
  | absent => exact List.forall_mem_nil _
  | plus => exact List.forall_mem_singleton.2 rfl
  | minus => exact List.forall_mem_singleton.2 rfl

theorem isBlank_of_mem_word {chars : List Char} (h : chars.map Char.toLower ∈ words) :
    ∀ char ∈ chars, Text.isBlank char = false := by
  have hwords : ∀ word ∈ words, word.any Text.isBlank = false := by decide
  intro char hmem
  cases hblank : Text.isBlank char with
  | false => rfl
  | true =>
    have hlower : (chars.map Char.toLower).any Text.isBlank = true := by
      refine List.any_eq_true.2 ⟨char.toLower, List.mem_map_of_mem hmem, ?_⟩
      rw [toLower_of_isBlank hblank, hblank]
    rw [hwords _ h] at hlower
    cases hlower

/-- No blank stands in a literal. -/
theorem IsLiteral.isBlank_of_mem {chars : List Char} (h : IsLiteral chars) :
    ∀ char ∈ chars, Text.isBlank char = false := by
  have hdigits {digits : List Char} (hall : AreDigits digits) :
      ∀ char ∈ digits, Text.isBlank char = false :=
    fun char hmem ↦ isBlank_of_isDigit (hall char hmem)
  have happend {front back : List Char} (hfront : ∀ char ∈ front, Text.isBlank char = false)
      (hback : ∀ char ∈ back, Text.isBlank char = false) :
      ∀ char ∈ front ++ back, Text.isBlank char = false :=
    List.forall_mem_append.2 ⟨hfront, hback⟩
  cases h with
  | signed hsign hchars =>
    apply happend (isBlank_of_mem_sign hsign)
    cases hchars with
    | word hword => exact isBlank_of_mem_word hword
    | decimal hcoefficient hexponent =>
      apply happend
      · cases hcoefficient with
        | whole _ hall => exact hdigits hall
        | pointed _ hwhole hplaces =>
          exact happend (hdigits hwhole) (List.forall_mem_cons.2 ⟨by decide, hdigits hplaces⟩)
      · cases hexponent with
        | absent => exact List.forall_mem_nil _
        | marked hmark hsign _ hall =>
          have hblank := happend (isBlank_of_mem_sign hsign) (hdigits hall)
          rcases hmark with rfl | rfl
          · exact List.forall_mem_cons.2 ⟨by decide, hblank⟩
          · exact List.forall_mem_cons.2 ⟨by decide, hblank⟩

theorem IsLiteral.ne_nil {chars : List Char} (h : IsLiteral chars) : chars ≠ [] := by
  cases h with
  | signed _ hchars =>
    obtain ⟨char, rest, rfl, -⟩ := hchars.exists_cons
    simp

end Literal

end TrialSeries
