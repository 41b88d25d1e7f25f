import TrialSeries.Proofs.JsonTokens
import TrialSeries.Toml.Value

/-!
# Integers in TOML

The decimal numeral of a natural number at the end of a line is read as that number, if it fits into
64 bits. Nothing else that a value can be begins with a digit, save a real, which has a point or an
exponent, and a moment, which has a dash or a colon.
-/

namespace TrialSeries.Toml

/-! ## Lines of one numeral -/

/-- A numeral with a line feed behind it. -/
def numeralLine (n : Nat) : List Char := Nat.toDigits 10 n ++ ['\n']

theorem isDigit_of_mem_toDigits {n : Nat} {char : Char} (h : char ∈ Nat.toDigits 10 n) :
    char.isDigit = true :=
  Nat.isDigit_of_mem_toDigits (by decide) (by decide) h

/-- A numeral begins with a digit. -/
theorem numeralLine_ne {mark : Char} (hmark : mark.isDigit = false) (n : Nat) (tail : List Char) :
    numeralLine n ≠ mark :: tail := by
  intro heq
  cases hdigits : Nat.toDigits 10 n with
  | nil => exact Nat.toDigits_ne_nil hdigits
  | cons digit digits =>
    have hdigit := isDigit_of_mem_toDigits (hdigits ▸ List.mem_cons_self)
    rw [numeralLine, hdigits] at heq
    rw [(List.cons.inj heq).1, hmark] at hdigit
    cases hdigit

theorem numeralLine_ne_zero {n : Nat} (hpos : n ≠ 0) (tail : List Char) :
    numeralLine n ≠ '0' :: tail := by
  intro heq
  apply hpos
  apply Json.eq_zero_of_head?_toDigits
  rw [← List.head?_append_of_ne_nil _ Nat.toDigits_ne_nil, ← numeralLine, heq]
  rfl

theorem notMem_numeralLine {mark : Char} (hdigit : mark.isDigit = false) (hfeed : mark ≠ '\n')
    (n : Nat) : mark ∉ numeralLine n := by
  intro hmem
  rcases List.mem_append.1 hmem with hmem | hmem
  · cases hdigit.symm.trans (isDigit_of_mem_toDigits hmem)
  · exact hfeed (List.mem_singleton.1 hmem)

theorem skipSpaces_numeralLine (n : Nat) : skipSpaces (numeralLine n) = numeralLine n := by
  cases heq : numeralLine n with
  | nil => rfl
  | cons char tail =>
    apply List.dropWhile_cons_of_neg
    intro hspace
    have hor : char = ' ' ∨ char = '\t' := by simpa [isSpace] using hspace
    rcases hor with rfl | rfl <;> exact numeralLine_ne (by decide) n tail heq

/-! ## Digits -/

theorem moreDigits_append {isDigit : Char → Bool} {digits rest : List Char}
    (hdigits : ∀ digit ∈ digits, isDigit digit = true ∧ digit ≠ '_')
    (hrest : ∀ char ∈ rest.head?, isDigit char = false ∧ char ≠ '_') :
    moreDigits isDigit (digits ++ rest) = (digits, rest) := by
  induction digits with
  | nil =>
    cases rest with
    | nil => rfl
    | cons char rest =>
      obtain ⟨hchar, hmark⟩ := hrest char rfl
      rw [List.nil_append, moreDigits, hchar]
      · rfl
      · intro digit tail hunderscore
        exact absurd hunderscore hmark
  | cons digit digits ih =>
    obtain ⟨⟨hdigit, hmark⟩, hdigits⟩ := List.forall_mem_cons.1 hdigits
    rw [List.cons_append, moreDigits, hdigit, ih hdigits]
    · rfl
    · intro next tail hunderscore
      exact absurd hunderscore hmark

theorem wholeDigits?_numeralLine (n : Nat) :
    wholeDigits? (numeralLine n) = some (Nat.toDigits 10 n, ['\n']) := by
  by_cases hzero : n = 0
  · subst hzero
    rfl
  · rw [wholeDigits?]
    · cases hdigits : Nat.toDigits 10 n with
      | nil => exact absurd hdigits Nat.toDigits_ne_nil
      | cons digit digits =>
        have hall : ∀ char ∈ digit :: digits, char.isDigit = true ∧ char ≠ '_' := by
          intro char hmem
          have hdigit := isDigit_of_mem_toDigits (hdigits ▸ hmem)
          refine ⟨hdigit, ?_⟩
          rintro rfl
          cases hdigit
        obtain ⟨⟨hdigit, -⟩, htail⟩ := List.forall_mem_cons.1 hall
        rw [numeralLine, hdigits, List.cons_append, digitRun?, hdigit,
          moreDigits_append htail (by rintro _ ⟨⟩; decide)]
        rfl
    · intro tail heq
      exact numeralLine_ne_zero hzero tail heq

/-! ## Numbers -/

theorem takeSign_numeralLine (n : Nat) :
    Literal.takeSign (numeralLine n) = (false, numeralLine n) := by
  rw [Literal.takeSign] <;>
  · intro tail heq
    exact numeralLine_ne (by decide) n tail heq

theorem integer?_numeralLine {n : Nat} (h : (n : Int) ≤ Int64.maxValue.toInt) :
    integer? (numeralLine n) = some (.integer n, ['\n']) := by
  have hdecimal : integer? (numeralLine n) = decimalInteger? (numeralLine n) := by
    by_cases hzero : n = 0
    · subst hzero
      rfl
    · rw [integer?] <;>
      · intro tail heq
        exact numeralLine_ne_zero hzero _ heq
  have hmin : Int64.minValue.toInt ≤ 0 := by decide
  have hinteger : integerOf? n = some (.integer n) := if_pos ⟨by omega, h⟩
  rw [hdecimal, decimalInteger?, takeSign_numeralLine]
  simp only [wholeDigits?_numeralLine, Option.bind_eq_bind, Option.bind_some,
    Nat.ofDigitChars_ten_toDigits, Bool.false_eq_true, if_false, hinteger]

theorem real?_numeralLine (n : Nat) : real? (numeralLine n) = none := by
  rw [real?, takeSign_numeralLine]
  simp only
  split
  · rename_i hword
    exact absurd hword (numeralLine_ne (by decide) n _)
  · rename_i hword
    exact absurd hword (numeralLine_ne (by decide) n _)
  · -- There is neither a point nor an exponent.
    simp [decimalReal?, wholeDigits?_numeralLine, placeDigits?, exponent?]

theorem number?_numeralLine {n : Nat} (h : (n : Int) ≤ Int64.maxValue.toInt) :
    number? (numeralLine n) = some (.integer n, ['\n']) := by
  rw [number?, real?_numeralLine, integer?_numeralLine h]
  rfl

/-! ## Moments -/

theorem after?_eq_none {mark : Char} {chars : List Char} (h : mark ∉ chars) :
    after? mark chars = none := by
  cases chars with
  | nil => rfl
  | cons char rest =>
    rw [after?, if_neg]
    rintro rfl
    exact h List.mem_cons_self

theorem eq_drop_of_fixedDigits? {width number : Nat} {chars rest : List Char}
    (h : fixedDigits? width chars = some (number, rest)) : rest = chars.drop width := by
  simp only [fixedDigits?] at h
  split at h
  · cases h
    rfl
  · cases h

theorem eq_drop_of_twoDigits? {limit number : Nat} {chars rest : List Char}
    (h : twoDigits? limit chars = some (number, rest)) : rest = chars.drop 2 := by
  simp only [twoDigits?, Option.bind_eq_bind, Option.bind_eq_some_iff] at h
  obtain ⟨⟨found, left⟩, hdigits, h⟩ := h
  split at h
  · cases h
    exact eq_drop_of_fixedDigits? hdigits
  · cases h

/-- A date has dashes and a time of day has colons. -/
theorem moment?_eq_none {chars : List Char} (hdash : '-' ∉ chars) (hcolon : ':' ∉ chars) :
    moment? chars = none := by
  have hdate : afterDate? chars = none := by
    rw [afterDate?]
    cases hyear : fixedDigits? 4 chars with
    | none => rfl
    | some found =>
      obtain ⟨year, rest⟩ := found
      rw [eq_drop_of_fixedDigits? hyear]
      simp [after?_eq_none fun hmem ↦ hdash (List.mem_of_mem_drop hmem)]
  have htime : afterTime? chars = none := by
    rw [afterTime?, afterHourAndMinute?]
    cases hhour : twoDigits? 23 chars with
    | none => rfl
    | some found =>
      obtain ⟨hour, rest⟩ := found
      rw [eq_drop_of_twoDigits? hhour]
      simp [after?_eq_none fun hmem ↦ hcolon (List.mem_of_mem_drop hmem)]
  simp [moment?, afterMoment?, afterDateTime?, hdate, htime]

/-! ## Values -/

theorem scalar?_numeralLine {n : Nat} (h : (n : Int) ≤ Int64.maxValue.toInt) :
    scalar? (numeralLine n) = some (.integer n, ['\n']) := by
  have hquoted : quotedText? (numeralLine n) = none := by
    rw [quotedText?] <;>
    · intro tail heq
      exact numeralLine_ne (by decide) n _ heq
  have hmoment : moment? (numeralLine n) = none :=
    moment?_eq_none (notMem_numeralLine (by decide) (by decide) n)
      (notMem_numeralLine (by decide) (by decide) n)
  rw [scalar?, hquoted, hmoment, number?_numeralLine h]
  · rfl
  · intro tail heq
    exact numeralLine_ne (by decide) n _ heq
  · intro tail heq
    exact numeralLine_ne (by decide) n _ heq

theorem value?_numeralLine {n : Nat} (h : (n : Int) ≤ Int64.maxValue.toInt) (fuel room : Nat) :
    value? (fuel + 1) room (numeralLine n) = some (.integer n, ['\n']) := by
  rw [value?, scalar?_numeralLine h] <;>
  · intro tail heq
    exact numeralLine_ne (by decide) n tail heq

end TrialSeries.Toml
