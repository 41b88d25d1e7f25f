import TrialSeries.Calendar
import TrialSeries.Data
import TrialSeries.Toml.Layout

/-!
# Dates and times in TOML

A moment is a date, a time of day, or both with an optional offset from universal time. The date has
to exist, and a minute may have a leap second. In a data tree a moment is a record of one field,
which holds the text of the moment.
-/

namespace TrialSeries.Toml

/-- A number of exactly so many digits. -/
def fixedDigits? (width : Nat) (chars : List Char) : Option (Nat × List Char) :=
  let digits := chars.take width
  if digits.length = width ∧ digits.all Char.isDigit then
    some (Nat.ofDigitChars 10 digits 0, chars.drop width)
  else none

/-- A number of two digits up to a limit. -/
def twoDigits? (limit : Nat) (chars : List Char) : Option (Nat × List Char) := do
  let (number, rest) ← fixedDigits? 2 chars
  if number ≤ limit then some (number, rest) else none

def afterDate? (chars : List Char) : Option (List Char) := do
  let (year, rest) ← fixedDigits? 4 chars
  let (month, rest) ← twoDigits? 12 (← after? '-' rest)
  let (day, rest) ← twoDigits? 31 (← after? '-' rest)
  if Date.isValid ⟨year, month, day⟩ then some rest else none

/-- What follows the fraction of a second, which may be absent. -/
def afterFraction? : List Char → Option (List Char)
  | '.' :: digit :: rest => if digit.isDigit then some (rest.dropWhile Char.isDigit) else none
  | '.' :: [] => none
  | chars => some chars

def afterHourAndMinute? (chars : List Char) : Option (List Char) := do
  let (_, rest) ← twoDigits? 23 chars
  let (_, rest) ← twoDigits? 59 (← after? ':' rest)
  some rest

def afterTime? (chars : List Char) : Option (List Char) := do
  let (_, rest) ← twoDigits? 60 (← after? ':' (← afterHourAndMinute? chars))
  afterFraction? rest

/-- What follows the offset from universal time, which may be absent. -/
def afterOffset? : List Char → Option (List Char)
  | 'Z' :: rest => some rest
  | 'z' :: rest => some rest
  | '+' :: rest => afterHourAndMinute? rest
  | '-' :: rest => afterHourAndMinute? rest
  | chars => some chars

/-- What follows a date, a time of day behind it and its offset. A space divides a date from a time
only if a time begins behind it. -/
def afterDateTime? (chars : List Char) : Option (List Char) := do
  let rest ← afterDate? chars
  match rest with
  | [] => some []
  | divider :: tail =>
    if divider = 'T' ∨ divider = 't' ∨ divider = ' ' ∧ (fixedDigits? 2 tail).isSome then
      afterOffset? (← afterTime? tail)
    else some rest

def afterMoment? (chars : List Char) : Option (List Char) :=
  afterDateTime? chars <|> afterTime? chars

/-- The field that holds the text of a moment. -/
def momentField : String := "moment"

/-- The moment at the start of a text. -/
def moment? (chars : List Char) : Option (Data × List Char) :=
  (afterMoment? chars).map fun rest ↦
    let text := String.ofList (chars.take (chars.length - rest.length))
    (.record [(momentField, .text text)], rest)

end TrialSeries.Toml
