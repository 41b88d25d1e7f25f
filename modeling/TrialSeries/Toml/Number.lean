import TrialSeries.Data
import TrialSeries.Decimal.Literal
import TrialSeries.Text.Characters

/-!
# Numbers in TOML

An integer is decimal with an optional sign, or has a base mark and no sign; it has to fit 64 bits.
A real has a point with digits on both sides, or an exponent, or is `inf` or `nan`. Single
underscores may stand between digits, and a decimal number begins with a zero only if that is its
one digit before the point.
-/

namespace TrialSeries.Toml

/-! ## Runs of digits -/

/-- The digits that go on a run, each of which may follow an underscore. -/
def moreDigits (isDigit : Char → Bool) : List Char → List Char × List Char
  | '_' :: digit :: rest =>
    if isDigit digit then
      let (digits, rest) := moreDigits isDigit rest
      (digit :: digits, rest)
    else ([], '_' :: digit :: rest)
  | digit :: rest =>
    if isDigit digit then
      let (digits, rest) := moreDigits isDigit rest
      (digit :: digits, rest)
    else ([], digit :: rest)
  | [] => ([], [])

/-- A run of at least one digit. -/
def digitRun? (isDigit : Char → Bool) : List Char → Option (List Char × List Char)
  | [] => none
  | digit :: rest =>
    if isDigit digit then
      let (digits, rest) := moreDigits isDigit rest
      some (digit :: digits, rest)
    else none

/-- The digits before a point, or of a decimal integer. -/
def wholeDigits? : List Char → Option (List Char × List Char)
  | '0' :: rest => some (['0'], rest)
  | chars => digitRun? Char.isDigit chars

/-! ## Integers -/

def isDigitOf (base : Nat) (char : Char) : Bool :=
  match Text.hexDigit? char with
  | some value => value < base
  | none => false

def integerOf? (value : Int) : Option Data :=
  if Int64.minValue.toInt ≤ value ∧ value ≤ Int64.maxValue.toInt then some (.integer value) else none

/-- The digits of an integer after the mark of its base. -/
def basedInteger? (base : Nat) (chars : List Char) : Option (Data × List Char) := do
  let (digits, rest) ← digitRun? (isDigitOf base) chars
  let value := digits.foldl (fun value digit ↦ value * base + (Text.hexDigit? digit).getD 0) 0
  some (← integerOf? value, rest)

def decimalInteger? (chars : List Char) : Option (Data × List Char) := do
  let (negative, unsigned) := Literal.takeSign chars
  let (digits, rest) ← wholeDigits? unsigned
  let magnitude : Int := Nat.ofDigitChars 10 digits 0
  some (← integerOf? (if negative then -magnitude else magnitude), rest)

def integer? : List Char → Option (Data × List Char)
  | '0' :: 'x' :: rest => basedInteger? 16 rest
  | '0' :: 'o' :: rest => basedInteger? 8 rest
  | '0' :: 'b' :: rest => basedInteger? 2 rest
  | chars => decimalInteger? chars

/-! ## Reals -/

/-- The digits after a point; none if there is no point. -/
def placeDigits? : List Char → Option (List Char × List Char)
  | '.' :: rest => digitRun? Char.isDigit rest
  | chars => some ([], chars)

def exponentOf? (chars : List Char) : Option (Int × List Char) := do
  let (negative, unsigned) := Literal.takeSign chars
  let (digits, rest) ← digitRun? Char.isDigit unsigned
  let magnitude : Int := Nat.ofDigitChars 10 digits 0
  some (if negative then -magnitude else magnitude, rest)

/-- The exponent, if there is one. -/
def exponent? : List Char → Option (Option Int × List Char)
  | 'e' :: rest => (exponentOf? rest).map fun (exponent, rest) ↦ (some exponent, rest)
  | 'E' :: rest => (exponentOf? rest).map fun (exponent, rest) ↦ (some exponent, rest)
  | chars => some (none, chars)

/-- A real in digits. One that is too large for binary64 is refused, but for a negative one. -/
def decimalReal? (negative : Bool) (chars : List Char) : Option (Data × List Char) := do
  let (whole, rest) ← wholeDigits? chars
  let (places, rest) ← placeDigits? rest
  let (exponent, rest) ← exponent? rest
  let decimal : Decimal :=
    ⟨Nat.ofDigitChars 10 (whole ++ places) 0, exponent.getD 0 - places.length⟩
  let value := decimal.toBinary64 negative
  if places = [] ∧ exponent = none ∨ value = Binary64.infinity false then none
  else some (.real value, rest)

def real? (chars : List Char) : Option (Data × List Char) :=
  let (negative, unsigned) := Literal.takeSign chars
  match unsigned with
  | 'i' :: 'n' :: 'f' :: rest => some (.real (Binary64.infinity negative), rest)
  | 'n' :: 'a' :: 'n' :: rest => some (.real (Binary64.quietNaN negative), rest)
  | unsigned => decimalReal? negative unsigned

/-- The number at the start of a text. -/
def number? (chars : List Char) : Option (Data × List Char) := real? chars <|> integer? chars

end TrialSeries.Toml
