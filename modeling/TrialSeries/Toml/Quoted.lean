import TrialSeries.Json.Quoted
import TrialSeries.Toml.Layout

/-!
# Quoted texts in TOML

A text stands between quotes, where a backslash begins an escape, or between apostrophes, where
every character stands for itself. Three delimiters in a row enclose a text of several lines; a line
end right after the opening ones is dropped, every other one counts as a line feed, and one or two
delimiters right before the closing ones belong to the text.

A text is read unit by unit: a unit is a character, an escape or a line end.
-/

namespace TrialSeries.Toml

/-- A character that stands for itself between the given delimiters; a backslash does so only
between apostrophes. -/
def isPlain (delimiter char : Char) : Bool :=
  char = '\t' || 0x20 ≤ char.toNat && char.toNat ≠ 0x7f && char ≠ delimiter &&
    (delimiter = '\'' || char ≠ '\\')

/-! ## Escapes -/

def hexNumber? (digits : List Char) : Option Nat :=
  digits.foldlM (fun number digit ↦ (Text.hexDigit? digit).map (number * 16 + ·)) 0

/-- The character with a code, which may not be half of a surrogate pair. -/
def charOfCode? (code : Nat) : Option Char :=
  if code.isValidChar then some (Char.ofNat code) else none

/-- The character of a code of a fixed number of digits. -/
def codeEscape? (width : Nat) (chars : List Char) : Option (List Char × List Char) :=
  if chars.length < width then none
  else do
    let char ← charOfCode? (← hexNumber? (chars.take width))
    some ([char], chars.drop width)

/-- The escape after a backslash. -/
def escape? : List Char → Option (List Char × List Char)
  | '"' :: rest => some (['"'], rest)
  | '\\' :: rest => some (['\\'], rest)
  | 'b' :: rest => some (['\x08'], rest)
  | 'f' :: rest => some (['\x0c'], rest)
  | 'n' :: rest => some (['\n'], rest)
  | 'r' :: rest => some (['\r'], rest)
  | 't' :: rest => some (['\t'], rest)
  | 'u' :: rest => codeEscape? 4 rest
  | 'U' :: rest => codeEscape? 8 rest
  | _ => none

/-! ## Units -/

/-- A plain character, or an escape between quotes. -/
def lineUnit? (delimiter : Char) : List Char → Option (List Char × List Char)
  | [] => none
  | char :: rest =>
    if isPlain delimiter char then some ([char], rest)
    else if char = '\\' then escape? rest
    else none

/-- A backslash at the end of a line takes the line end and all blanks after it along. -/
def joinLines? (chars : List Char) : Option (List Char × List Char) :=
  (afterNewline? (skipSpaces chars)).map fun rest ↦ ([], skipBlanks rest)

/-- A unit of a text of several lines, in which delimiters may stand alone. -/
def textUnit? (delimiter : Char) (chars : List Char) : Option (List Char × List Char) :=
  match afterNewline? chars with
  | some rest => some (['\n'], rest)
  | none => match chars with
    | [] => none
    | char :: rest =>
      if char = delimiter then some ([char], rest)
      else if char = '\\' ∧ delimiter = '"' then joinLines? rest <|> escape? rest
      else lineUnit? delimiter (char :: rest)

/-! ## Ends -/

/-- The delimiter that closes a text of one line. -/
def lineEnd? (delimiter : Char) : List Char → Option (List Char × List Char)
  | [] => none
  | char :: rest => if char = delimiter then some ([], rest) else none

/-- The delimiters that close a text of several lines, and those before them that belong to it. -/
def textEnd? (delimiter : Char) (chars : List Char) : Option (List Char × List Char) :=
  let run := (chars.takeWhile (· = delimiter)).length
  if run < 3 then none
  else
    let own := min (run - 3) 2
    some (List.replicate own delimiter, chars.drop (own + 3))

/-! ## Texts -/

/-- The units up to an end. Each unit uses one unit of fuel, and one more than the length of the
text is enough. -/
def unitsUntil (closing? unit? : List Char → Option (List Char × List Char)) :
    Nat → List Char → Option (List Char × List Char)
  | 0, _ => none
  | fuel + 1, chars =>
    match closing? chars with
    | some found => some found
    | none => do
      let (now, rest) ← unit? chars
      let (later, rest) ← unitsUntil closing? unit? fuel rest
      some (now ++ later, rest)

/-- A text of one line after its opening delimiter. -/
def lineText? (delimiter : Char) (chars : List Char) : Option (List Char × List Char) :=
  unitsUntil (lineEnd? delimiter) (lineUnit? delimiter) (chars.length + 1) chars

/-- A text of several lines after its opening delimiters. -/
def linesText? (delimiter : Char) (chars : List Char) : Option (List Char × List Char) :=
  let content := (afterNewline? chars).getD chars
  unitsUntil (textEnd? delimiter) (textUnit? delimiter) (content.length + 1) content

/-- The quoted text at the start of a text. -/
def quotedText? : List Char → Option (List Char × List Char)
  | '"' :: '"' :: '"' :: rest => linesText? '"' rest
  | '"' :: rest => lineText? '"' rest
  | '\'' :: '\'' :: '\'' :: rest => linesText? '\'' rest
  | '\'' :: rest => lineText? '\'' rest
  | _ => none

/-! ## Writing -/

/-- The written form of a character between quotes. -/
def escapeChar (char : Char) : List Char :=
  if char = '\x7f' then ['\\', 'u', '0', '0', '7', 'f'] else Json.escapeChar char

def quoted (text : String) : String :=
  String.ofList ('"' :: text.toList.flatMap escapeChar ++ ['"'])

end TrialSeries.Toml
