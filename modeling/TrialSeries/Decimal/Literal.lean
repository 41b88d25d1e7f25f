import TrialSeries.Decimal.Shortest

/-!
# Number literals

A literal is an optional sign and either `inf`, `infinity` or `nan` in any case, or decimal digits
with an optional point among, before or after them and an optional exponent. Its value is the
nearest binary64 value; the sign of a zero and of a NaN is kept.
-/

namespace TrialSeries

namespace Decimal

/-- The binary64 value nearest to a decimal. Exponents far outside the range of the format are
answered without computing the power. -/
def toBinary64 (negative : Bool) (decimal : Decimal) : Binary64 :=
  if decimal.coefficient = 0 ∨ decimal.exponent < -350 - (decimal.coefficient.log2 : Int) then
    Binary64.nearest negative 0 1
  else if 310 < decimal.exponent then Binary64.infinity negative
  else Binary64.nearest negative (decimal.coefficient * Nat.pow 10 decimal.exponent.toNat)
    (Nat.pow 10 (-decimal.exponent).toNat)

end Decimal

namespace Literal

/-- Splits a leading sign off; the flag is set for a minus. -/
def takeSign : List Char → Bool × List Char
  | '-' :: rest => (true, rest)
  | '+' :: rest => (false, rest)
  | chars => (false, chars)

/-- The exponent part at the end of a literal, which may be absent. -/
def exponent? : List Char → Option Int
  | [] => some 0
  | mark :: rest =>
    let (negative, digits) := takeSign rest
    if (mark = 'e' ∨ mark = 'E') ∧ digits ≠ [] ∧ digits.all Char.isDigit then
      let magnitude : Int := Nat.ofDigitChars 10 digits 0
      some (if negative then -magnitude else magnitude)
    else none

/-- The decimal of an unsigned literal in digits. -/
def decimal? (chars : List Char) : Option Decimal :=
  let whole := chars.takeWhile Char.isDigit
  let afterWhole := chars.dropWhile Char.isDigit
  let (places, afterPlaces) := match afterWhole with
    | '.' :: rest => (rest.takeWhile Char.isDigit, rest.dropWhile Char.isDigit)
    | rest => ([], rest)
  if whole = [] ∧ places = [] then none
  else (exponent? afterPlaces).map fun exponent ↦
    ⟨Nat.ofDigitChars 10 (whole ++ places) 0, exponent - places.length⟩

/-- The value of an unsigned literal under a sign. -/
def magnitude? (negative : Bool) (chars : List Char) : Option Binary64 :=
  match String.ofList (chars.map Char.toLower) with
  | "inf" | "infinity" => some (Binary64.infinity negative)
  | "nan" => some (Binary64.quietNaN negative)
  | _ => (decimal? chars).map (·.toBinary64 negative)

end Literal

/-- The value of a number literal, or nothing if the text is none. -/
def Binary64.parse? (chars : List Char) : Option Binary64 :=
  let (negative, rest) := Literal.takeSign chars
  Literal.magnitude? negative rest

end TrialSeries
