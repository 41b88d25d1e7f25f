/-!
# Characters

Sets of characters are ranges of code points. Blank is the property White_Space of Unicode 17, and
trimming removes blanks from the two ends of a text and keeps those inside. Hexadecimal digits are
read in either case and written in lower case.
-/

namespace TrialSeries.Text

/-! ## Ranges -/

/-- A closed range of code points. -/
abbrev Range := Nat × Nat

def inRanges (ranges : List Range) (code : Nat) : Bool :=
  ranges.any fun range ↦ range.1 ≤ code && code ≤ range.2

/-! ## Blanks -/

def blankRanges : List Range :=
  [(0x9, 0xd), (0x20, 0x20), (0x85, 0x85), (0xa0, 0xa0), (0x1680, 0x1680), (0x2000, 0x200a),
   (0x2028, 0x2029), (0x202f, 0x202f), (0x205f, 0x205f), (0x3000, 0x3000)]

def isBlank (char : Char) : Bool := inRanges blankRanges char.toNat

def trimStart (chars : List Char) : List Char := chars.dropWhile isBlank

def trimEnd (chars : List Char) : List Char := (chars.reverse.dropWhile isBlank).reverse

def trim (chars : List Char) : List Char := trimEnd (trimStart chars)

/-! ## Hexadecimal digits -/

/-- The value of a hexadecimal digit in either case. -/
def hexDigit? (char : Char) : Option Nat :=
  if char.isDigit then some (char.toNat - '0'.toNat)
  else if 'a' ≤ char ∧ char ≤ 'f' then some (char.toNat - 'a'.toNat + 10)
  else if 'A' ≤ char ∧ char ≤ 'F' then some (char.toNat - 'A'.toNat + 10)
  else none

/-- The two digits of a number below 256. -/
def hexByte (code : Nat) : List Char := [Nat.digitChar (code / 16), Nat.digitChar (code % 16)]

end TrialSeries.Text
