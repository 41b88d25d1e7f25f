import TrialSeries.Data

/-!
# The value of a JSON number

Digits are collected into a 64-bit coefficient. An integer that fits its 64-bit type is an integer.
Any other number is the coefficient times or over a power of ten, each taken as binary64 and
multiplied or divided in binary64; digits that no longer fit the coefficient are dropped, those
before the point raising the exponent. A number whose product is infinite has no value.
-/

namespace TrialSeries.Json

/-- Digits collected so far, and the exponent of the last one collected. -/
structure Collected where
  coefficient : Nat
  exponent : Int
deriving DecidableEq

/-- Collects the digits before the point; after the first that does not fit the rest is counted. -/
def collectWhole (coefficient : Nat) : List Char → Collected
  | [] => ⟨coefficient, 0⟩
  | digit :: rest =>
    let next := coefficient * 10 + (digit.toNat - '0'.toNat)
    if next < UInt64.size then collectWhole next rest else ⟨coefficient, rest.length + 1⟩

/-- Collects the digits after the point, as far as they fit. -/
def collectPlaces (collected : Collected) : List Char → Collected
  | [] => collected
  | digit :: rest =>
    let next := collected.coefficient * 10 + (digit.toNat - '0'.toNat)
    if next < UInt64.size then collectPlaces ⟨next, collected.exponent - 1⟩ rest else collected

def powerOfTen (exponent : Nat) : Binary64 := Binary64.nearest false (Nat.pow 10 exponent) 1

/-- Divides by a power of ten in steps of at most `10 ^ 308`. -/
def divideByPower (value : Binary64) (exponent : Nat) : Binary64 :=
  if exponent ≤ 308 then value / powerOfTen exponent
  else if value.isZero then value
  else divideByPower (value / powerOfTen 308) (exponent - 308)
termination_by exponent

/-- The magnitude of a number with a point or an exponent, or of a long integer. -/
def scaled (collected : Collected) : Option Binary64 :=
  let base := Binary64.ofNat collected.coefficient
  if collected.exponent < 0 then some (divideByPower base (-collected.exponent).toNat)
  else if base.isZero then some base
  else if 308 < collected.exponent then none
  else
    let product := base * powerOfTen collected.exponent.toNat
    if product.isInfinite then none else some product

def signedReal (negative : Bool) : Option Binary64 → Data
  | none => .unusable
  | some value => .real (if negative then value.negate else value)

/-- An integer literal; beyond its 64-bit type, and as negative zero, it is a real. -/
def integerValue (negative : Bool) (whole : List Char) : Data :=
  let collected := collectWhole 0 whole
  if collected.exponent ≠ 0 then signedReal negative (scaled collected)
  else if !negative then .integer collected.coefficient
  else if 0 < collected.coefficient ∧ collected.coefficient ≤ 0x8000000000000000 then
    .integer (-collected.coefficient)
  else .real (Binary64.ofNat collected.coefficient).negate

/-- A literal with a point or an exponent. -/
def realValue (negative : Bool) (whole places : List Char) (exponent : Int) : Data :=
  let collected := collectPlaces (collectWhole 0 whole) places
  signedReal negative (scaled ⟨collected.coefficient, collected.exponent + exponent⟩)

/-! ## Number tokens -/

/-- Digits of an integer part: no leading zero before another digit. -/
def takeWhole (chars : List Char) : Option (List Char × List Char) :=
  let digits := chars.takeWhile Char.isDigit
  if digits = [] ∨ digits.head? = some '0' ∧ 1 < digits.length then none
  else some (digits, chars.dropWhile Char.isDigit)

/-- The digits after a point, at least one; nothing if there is no point. -/
def takePlaces : List Char → Option (List Char × List Char)
  | '.' :: rest =>
    let digits := rest.takeWhile Char.isDigit
    if digits = [] then none else some (digits, rest.dropWhile Char.isDigit)
  | chars => some ([], chars)

def takeExponentSign : List Char → Bool × List Char
  | '-' :: rest => (true, rest)
  | '+' :: rest => (false, rest)
  | chars => (false, chars)

/-- The exponent, if a number has one. -/
def takeExponent : List Char → Option (Option Int × List Char)
  | [] => some (none, [])
  | mark :: rest =>
    if mark = 'e' ∨ mark = 'E' then
      let (negative, tail) := takeExponentSign rest
      let digits := tail.takeWhile Char.isDigit
      let magnitude : Int := Nat.ofDigitChars 10 digits 0
      if digits = [] then none
      else some (some (if negative then -magnitude else magnitude), tail.dropWhile Char.isDigit)
    else some (none, mark :: rest)

def unsignedNumber (negative : Bool) (chars : List Char) : Option (Data × List Char) := do
  let (whole, afterWhole) ← takeWhole chars
  let (places, afterPlaces) ← takePlaces afterWhole
  let (exponent, rest) ← takeExponent afterPlaces
  let value := match places, exponent with
    | [], none => integerValue negative whole
    | places, exponent => realValue negative whole places (exponent.getD 0)
  some (value, rest)

/-- The number at the start of a text, and what follows it. -/
def number : List Char → Option (Data × List Char)
  | '-' :: rest => unsignedNumber true rest
  | chars => unsignedNumber false chars

end TrialSeries.Json
