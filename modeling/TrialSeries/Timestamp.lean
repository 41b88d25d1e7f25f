import TrialSeries.Calendar
import TrialSeries.Text.Characters

/-!
# Timestamps

A timestamp is a second since the start of 1970 in universal time and a fraction of it in
nanoseconds. A fraction of a whole second or more stands in the leap second after it, which is
shown as second 60. Timestamps are written as dates and times of day, and read with some freedom in
blanks and separators.
-/

namespace TrialSeries

structure Timestamp where
  second : Int
  nanosecond : Nat
deriving DecidableEq, Inhabited

namespace Timestamp

def date (timestamp : Timestamp) : Date := .ofDays (timestamp.second / 86400)

def secondOfDay (timestamp : Timestamp) : Nat := (timestamp.second % 86400).toNat

/-- A timestamp exists if its date does and a leap second follows the end of a minute. -/
def isValid (timestamp : Timestamp) : Bool :=
  timestamp.date.isValid &&
    (timestamp.nanosecond < 1_000_000_000 ||
      timestamp.nanosecond < 2_000_000_000 && timestamp.second % 60 == 59)

/-! ## Writing -/

/-- A number with leading zeros up to a width. -/
def padded (width n : Nat) : String :=
  let digits := Nat.toDigits 10 n
  String.ofList (List.replicate (width - digits.length) '0' ++ digits)

/-- Years from 0 to 9999 have four digits, and others a sign as well. -/
def yearText (year : Int) : String :=
  if 0 ≤ year ∧ year ≤ 9999 then padded 4 year.toNat
  else (if year < 0 then "-" else "+") ++ padded 4 year.natAbs

def dateText (timestamp : Timestamp) : String :=
  let date := timestamp.date
  yearText date.year ++ "-" ++ padded 2 date.month ++ "-" ++ padded 2 date.day

def timeText (timestamp : Timestamp) : String :=
  let second := timestamp.secondOfDay
  padded 2 (second / 3600) ++ ":" ++ padded 2 (second / 60 % 60) ++ ":" ++
    padded 2 (second % 60 + timestamp.nanosecond / 1_000_000_000)

/-- The fraction of a second with three, six or nine places, the fewest that show it, or nothing. -/
def fractionText (timestamp : Timestamp) : String :=
  let nanosecond := timestamp.nanosecond % 1_000_000_000
  if nanosecond = 0 then ""
  else if nanosecond % 1_000_000 = 0 then "." ++ padded 3 (nanosecond / 1_000_000)
  else if nanosecond % 1_000 = 0 then "." ++ padded 6 (nanosecond / 1_000)
  else "." ++ padded 9 nanosecond

/-- Date, time and fraction in the form for data files. -/
def dataText (timestamp : Timestamp) : String :=
  timestamp.dateText ++ "T" ++ timestamp.timeText ++ timestamp.fractionText ++ "Z"

/-- Date and time in the form for readers. -/
def display (timestamp : Timestamp) : String :=
  timestamp.dateText ++ " " ++ timestamp.timeText ++ " UTC"

/-! ## Reading -/

/-- A number of at least one digit and at most `limit`. -/
def takeNumber (limit : Nat) (chars : List Char) : Option (Nat × List Char) :=
  let digits := (chars.take limit).takeWhile Char.isDigit
  if digits = [] then none
  else some (Nat.ofDigitChars 10 digits 0, chars.drop digits.length)

/-- A number of one or two digits after blanks. -/
def takeField (chars : List Char) : Option (Nat × List Char) := takeNumber 2 (Text.trimStart chars)

/-- A year after blanks: up to four digits, or any number of them after a sign. -/
def takeYear (chars : List Char) : Option (Int × List Char) :=
  match Text.trimStart chars with
  | '-' :: rest => (takeNumber rest.length rest).map fun (year, rest) ↦ (-(year : Int), rest)
  | '+' :: rest => (takeNumber rest.length rest).map fun (year, rest) ↦ ((year : Int), rest)
  | chars => (takeNumber 4 chars).map fun (year, rest) ↦ ((year : Int), rest)

/-- A separator after blanks. -/
def dropSeparator (separator : Char) (chars : List Char) : Option (List Char) :=
  match Text.trimStart chars with
  | [] => none
  | char :: rest => if char = separator then some rest else none

/-- A fraction of a second in nanoseconds, if there is a point; digits beyond the ninth are passed
over. -/
def takeFraction : List Char → Option (Nat × List Char)
  | '.' :: rest =>
    let digits := (rest.take 9).takeWhile Char.isDigit
    if digits = [] then none
    else some (Nat.ofDigitChars 10 digits 0 * Nat.pow 10 (9 - digits.length),
      (rest.drop digits.length).dropWhile Char.isDigit)
  | chars => some (0, chars)

def takeTwoDigits : List Char → Option (Nat × List Char)
  | tens :: units :: rest =>
    if tens.isDigit ∧ units.isDigit then some (Nat.ofDigitChars 10 [tens, units] 0, rest) else none
  | _ => none

/-- The offset from universal time in seconds: `UTC`, `Z`, or hours and minutes with a sign and
perhaps colons or blanks between them. -/
def takeOffset (chars : List Char) : Option (Int × List Char) :=
  match chars with
  | 'Z' :: rest | 'z' :: rest => some (0, rest)
  | sign :: rest =>
    if String.ofList ((chars.take 3).map Char.toLower) = "utc" then some (0, chars.drop 3)
    else if sign = '+' ∨ sign = '-' ∨ sign = '\u2212' then do
      let (hours, rest) ← takeTwoDigits rest
      let rest := rest.dropWhile fun char ↦ char = ':' || Text.isBlank char
      let (minutes, rest) ← takeTwoDigits rest
      let seconds : Int := hours * 3600 + minutes * 60
      if minutes < 60 ∧ seconds < 86400 then some (if sign = '+' then seconds else -seconds, rest)
      else none
    else none
  | [] => none

/-- The time of day as a second and a fraction; second 60 is the leap second after second 59. -/
def timeOfDay? (hour minute second nanosecond : Nat) : Option (Nat × Nat) :=
  if 23 < hour ∨ 59 < minute ∨ 60 < second then none
  else if second = 60 then some (hour * 3600 + minute * 60 + 59, 1_000_000_000 + nanosecond)
  else some (hour * 3600 + minute * 60 + second, nanosecond)

/-- The timestamp that a text names, if it names one. -/
def parse? (text : String) : Option Timestamp := do
  let (year, rest) ← takeYear text.toList
  let (month, rest) ← takeField (← dropSeparator '-' rest)
  let (day, rest) ← takeField (← dropSeparator '-' rest)
  let rest ← match rest with
    | 't' :: rest | 'T' :: rest | ' ' :: rest => some rest
    | _ => none
  let (hour, rest) ← takeField rest
  let (minute, rest) ← takeField (← dropSeparator ':' rest)
  let (second, rest) ← takeField (← dropSeparator ':' rest)
  let (nanosecond, rest) ← takeFraction rest
  let (offset, rest) ← takeOffset (Text.trimStart rest)
  let (secondOfDay, nanosecond) ← timeOfDay? hour minute second nanosecond
  let date : Date := ⟨year, month, day⟩
  let timestamp : Timestamp := ⟨date.toDays * 86400 + secondOfDay - offset, nanosecond⟩
  if date.isValid && timestamp.isValid && (Text.trimStart rest).isEmpty then some timestamp
  else none

end Timestamp

end TrialSeries
