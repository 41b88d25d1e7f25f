import TrialSeries.Data
import TrialSeries.Text.Characters

/-!
# Quoted texts in JSON

Between its quotes a text stands for itself, but for the quote, the backslash and the control
characters, which are escaped. A reader also accepts a few more escapes than a writer uses, among
them 16-bit codes: two of them that form a surrogate pair are one character, and one half alone
leaves the text without a value.
-/

namespace TrialSeries.Json

/-! ## Writing -/

def escapeChar (char : Char) : List Char :=
  if char = '"' then ['\\', '"']
  else if char = '\\' then ['\\', '\\']
  else if char = '\x08' then ['\\', 'b']
  else if char = '\t' then ['\\', 't']
  else if char = '\n' then ['\\', 'n']
  else if char = '\x0c' then ['\\', 'f']
  else if char = '\r' then ['\\', 'r']
  else if char.toNat < 0x20 then ['\\', 'u', '0', '0'] ++ Text.hexByte char.toNat
  else [char]

def quoted (text : String) : List Char := '"' :: text.toList.flatMap escapeChar ++ ['"']

/-! ## Reading -/

/-- The character that a one-letter escape stands for. -/
def unescapeLetter : Char → Option Char
  | '"' => some '"'
  | '\\' => some '\\'
  | '/' => some '/'
  | 'b' => some '\x08'
  | 'f' => some '\x0c'
  | 'n' => some '\n'
  | 'r' => some '\r'
  | 't' => some '\t'
  | _ => none

def hexCode (first second third fourth : Char) : Option Nat := do
  let first ← Text.hexDigit? first
  let second ← Text.hexDigit? second
  let third ← Text.hexDigit? third
  let fourth ← Text.hexDigit? fourth
  some (((first * 16 + second) * 16 + third) * 16 + fourth)

/-- The codes of a text up to its closing quote, and what follows the quote. A code between `0xd800`
and `0xdfff` is half of a surrogate pair. -/
def codes : List Char → Option (List Nat × List Char)
  | [] => none
  | '"' :: rest => some ([], rest)
  | '\\' :: 'u' :: first :: second :: third :: fourth :: rest => do
    let code ← hexCode first second third fourth
    let (more, rest) ← codes rest
    some (code :: more, rest)
  | '\\' :: letter :: rest => do
    let char ← unescapeLetter letter
    let (more, rest) ← codes rest
    some (char.toNat :: more, rest)
  | char :: rest =>
    if char = '\\' ∨ char.toNat < 0x20 then none
    else do
      let (more, rest) ← codes rest
      some (char.toNat :: more, rest)

def isHighHalf (code : Nat) : Bool := 0xd800 ≤ code && code < 0xdc00

def isLowHalf (code : Nat) : Bool := 0xdc00 ≤ code && code < 0xe000

/-- The characters of a list of codes, unless half of a pair stands alone. -/
def joinCodes : List Nat → Option (List Char)
  | [] => some []
  | high :: low :: rest =>
    if isHighHalf high then
      if isLowHalf low then
        (joinCodes rest).map
          (Char.ofNat (0x10000 + (high - 0xd800) * 0x400 + (low - 0xdc00)) :: ·)
      else none
    else if isLowHalf high then none
    else (joinCodes (low :: rest)).map (Char.ofNat high :: ·)
  | [code] =>
    if isHighHalf code || isLowHalf code then none else some [Char.ofNat code]

/-- The content of a quoted text after its opening quote. -/
def quotedContent (chars : List Char) : Option (Option String × List Char) := do
  let (codes, rest) ← codes chars
  some ((joinCodes codes).map String.ofList, rest)

end TrialSeries.Json
