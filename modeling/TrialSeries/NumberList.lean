import TrialSeries.Decimal.Literal
import TrialSeries.LogError
import TrialSeries.Text.Characters
import TrialSeries.Text.Split

/-!
# Lists of numbers

A payload is a list of number literals between separators, each with blanks around it. A blank
payload is the empty list; in every other payload each piece between separators has to be a literal,
and the first piece that is none is the one reported.
-/

namespace TrialSeries.NumberList

/-- The pieces of a payload that is not blank. -/
def pieces (separator : Char) (payload : List Char) : List (List Char) :=
  (Text.splitOn separator (Text.trim payload)).map Text.trim

def readPiece (field : String) (line : Nat) (piece : List Char) : Except LogError Binary64 :=
  match Binary64.parse? piece with
  | some value => .ok value
  | none => .error (.invalidNumber line field (String.ofList piece))

/-- The numbers of a payload; `field` and `line` say where it stands. -/
def read (separator : Char) (field : String) (line : Nat) (payload : List Char) :
    Except LogError (List Binary64) :=
  if Text.trim payload = [] then .ok []
  else (pieces separator payload).mapM (readPiece field line)

end TrialSeries.NumberList
