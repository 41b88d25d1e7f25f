import TrialSeries.Text.GraphemeExtend
import TrialSeries.Text.Unprintable

/-!
# Quoted texts

Messages show a text between double quotes and a character between single quotes. The enclosing
quote, the backslash and the usual controls are written with a backslash; characters that would be
invisible or would attach to their neighbour are written by their code point.
-/

namespace TrialSeries.Text

/-- The hexadecimal digits of a code point in braces. -/
def codePointEscape (char : Char) : List Char :=
  "\\u\x7b".toList ++ Nat.toDigits 16 char.toNat ++ ['\x7d']

/-- The written form of a character between a given kind of quotes. -/
def escape (quote char : Char) : List Char :=
  if char = '\x00' then ['\\', '0']
  else if char = '\t' then ['\\', 't']
  else if char = '\r' then ['\\', 'r']
  else if char = '\n' then ['\\', 'n']
  else if char = '\\' ∨ char = quote then ['\\', char]
  else if char.toNat < 0x7f ∧ 0x20 ≤ char.toNat then [char]
  else if attaches char ∨ isUnprintable char then codePointEscape char
  else [char]

def quote (text : String) : String :=
  String.ofList ('"' :: text.toList.flatMap (escape '"') ++ ['"'])

def quoteChar (char : Char) : String :=
  String.ofList ('\'' :: escape '\'' char ++ ['\''])

end TrialSeries.Text
