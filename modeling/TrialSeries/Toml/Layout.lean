/-!
# Blanks, comments and line ends in TOML

A line ends in a line feed, which a carriage return may precede; a carriage return alone is an
error. A comment runs from a number sign to the end of its line. Control characters may not stand in
it, the tabulator excepted.
-/

namespace TrialSeries.Toml

/-- What follows a character at the start of a text. -/
def after? (mark : Char) : List Char → Option (List Char)
  | [] => none
  | char :: rest => if char = mark then some rest else none

def isSpace (char : Char) : Bool := char = ' ' || char = '\t'

def skipSpaces (chars : List Char) : List Char := chars.dropWhile isSpace

/-- A character that may stand in a comment. -/
def isCommentChar (char : Char) : Bool :=
  char = '\t' || 0x20 ≤ char.toNat && char.toNat ≠ 0x7f

def skipComment : List Char → List Char
  | '#' :: rest => rest.dropWhile isCommentChar
  | chars => chars

/-- What follows the line end at the start of a text. -/
def afterNewline? : List Char → Option (List Char)
  | '\n' :: rest => some rest
  | '\r' :: '\n' :: rest => some rest
  | _ => none

/-- What follows the rest of a line on which nothing more is said. -/
def afterLine? (chars : List Char) : Option (List Char) :=
  match skipComment (skipSpaces chars) with
  | [] => some []
  | rest => afterNewline? rest

/-- Skips blanks and line ends. A carriage return alone stays, and no reader accepts it. -/
def skipBlanks : List Char → List Char
  | '\n' :: rest => skipBlanks rest
  | '\r' :: '\n' :: rest => skipBlanks rest
  | ' ' :: rest => skipBlanks rest
  | '\t' :: rest => skipBlanks rest
  | chars => chars

/-- Skips blanks, line ends and comments, which may stand between the items of an array. Each
comment uses one unit of fuel, and the length of the text is enough. -/
def skipLines : Nat → List Char → List Char
  | 0, chars => chars
  | fuel + 1, chars =>
    match skipBlanks chars with
    | '#' :: rest => skipLines fuel (rest.dropWhile isCommentChar)
    | rest => rest

end TrialSeries.Toml
