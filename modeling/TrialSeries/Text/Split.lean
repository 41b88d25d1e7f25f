/-!
# Cutting a text at a character

`splitOn` gives the pieces between all occurrences of a character, so there is one piece more than
there are occurrences. `cutAt` cuts at the first occurrence only. `lines` gives the lines of a text:
a line ends at a line feed, which takes one carriage return before it along, and a text that ends
in a line feed has no further line after it.
-/

namespace TrialSeries.Text

def splitOn (separator : Char) : List Char → List (List Char)
  | [] => [[]]
  | char :: rest =>
    if char = separator then [] :: splitOn separator rest
    else match splitOn separator rest with
      | [] => [[char]]
      | piece :: pieces => (char :: piece) :: pieces

/-- The texts before and after the first occurrence of a character. -/
def cutAt (separator : Char) : List Char → Option (List Char × List Char)
  | [] => none
  | char :: rest =>
    if char = separator then some ([], rest)
    else (cutAt separator rest).map fun (before, after) ↦ (char :: before, after)

/-- A line without the carriage return at its end, if it has one. -/
def dropCarriageReturn (chars : List Char) : List Char :=
  if chars.getLast? = some '\r' then chars.dropLast else chars

/-- The lines among pieces cut at line feeds; all pieces but the last ended in a line feed. -/
def linesOfPieces : List (List Char) → List (List Char)
  | [] => []
  | [last] => if last.isEmpty then [] else [last]
  | piece :: pieces => dropCarriageReturn piece :: linesOfPieces pieces

def lines (chars : List Char) : List (List Char) := linesOfPieces (splitOn '\n' chars)

/-- A fragment occurs somewhere in a text. -/
def occursIn (fragment : List Char) : List Char → Bool
  | [] => fragment.isEmpty
  | char :: rest => fragment.isPrefixOf (char :: rest) || occursIn fragment rest

end TrialSeries.Text
