import TrialSeries.Decimal.Shortest

/-!
# How numbers are written

A number is shown by its shortest decimal, always positionally. In a report table it has a fixed
number of places, rounded from its exact value. In a data file it is the shortest decimal again,
with a point or an exponent, so that it cannot be mistaken for an integer.
-/

namespace TrialSeries

namespace Decimal

def digits (decimal : Decimal) : List Char := Nat.toDigits 10 decimal.coefficient

/-- The exponent of the leading digit. -/
def order (decimal : Decimal) : Int := decimal.exponent + decimal.digits.length - 1

/-- Digits with the point in its place, without an exponent. -/
def positional (decimal : Decimal) : List Char :=
  let whole := decimal.exponent + decimal.digits.length
  if 0 ≤ decimal.exponent then
    decimal.digits ++ List.replicate decimal.exponent.toNat '0'
  else if 0 < whole then
    decimal.digits.take whole.toNat ++ '.' :: decimal.digits.drop whole.toNat
  else '0' :: '.' :: List.replicate (-whole).toNat '0' ++ decimal.digits

/-- One digit, the point and the other digits if there are any, and a signed exponent. -/
def scientific (decimal : Decimal) : List Char :=
  let mantissa := match decimal.digits with
    | first :: second :: rest => first :: '.' :: second :: rest
    | other => other
  mantissa ++ 'e' :: (if decimal.order < 0 then '-' else '+') ::
    Nat.toDigits 10 decimal.order.natAbs

end Decimal

namespace Binary64

def signed (value : Binary64) (text : List Char) : String :=
  String.ofList (if value.isNegative then '-' :: text else text)

/-- The text of a number on its own: the shortest decimal, of two equally near ones the greater. -/
def display (value : Binary64) : String :=
  if value.isNaN then "NaN"
  else value.signed
    (if value.isInfinite then "inf".toList else (value.shortest .up).positional)

/-- The text of a number with a fixed number of places: the exact value, a half going to the even
neighbour. -/
def fixed (places : Nat) (value : Binary64) : String :=
  if value.isNaN then "NaN"
  else if value.isInfinite then value.signed "inf".toList
  else
    let units := roundHalfEven
      (value.significand * Nat.pow 10 places * Nat.pow 2 value.scale.toNat)
      (Nat.pow 2 (-value.scale).toNat)
    let digits := Nat.toDigits 10 units
    let padded := List.replicate (places + 1 - digits.length) '0' ++ digits
    let whole := padded.length - places
    value.signed (if places = 0 then padded else padded.take whole ++ '.' :: padded.drop whole)

/-- The text of a finite number in a data file: positional with a point if the leading digit stands
at `10 ^ -5` to `10 ^ 15`, otherwise with an exponent. -/
def dataText (value : Binary64) : String :=
  let decimal := value.shortest .even
  value.signed
    (if decimal.order < -5 ∨ 16 ≤ decimal.order then decimal.scientific
    else if 0 ≤ decimal.exponent then decimal.positional ++ ['.', '0']
    else decimal.positional)

end Binary64

end TrialSeries
