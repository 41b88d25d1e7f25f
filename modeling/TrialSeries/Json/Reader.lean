import TrialSeries.Json.Number
import TrialSeries.Json.Quoted

/-!
# Reading JSON

A JSON text is one value with blanks around it. A token may lack a value until it is used, and so
may a record, one of whose field names has none, and a sequence or record that is nested too deep.
-/

namespace TrialSeries.Json

def isBlank (char : Char) : Bool :=
  char = ' ' || char = '\n' || char = '\t' || char = '\r'

def skipBlanks (chars : List Char) : List Char := chars.dropWhile isBlank

def textValue : Option String → Data
  | some content => .text content
  | none => .unusable

/-- The record of some fields, whose names may lack a value. -/
def recordValue (fields : List (Option String × Data)) : Data :=
  match fields.mapM fun (name, item) ↦ name.map (·, item) with
  | some fields => .record fields
  | none => .unusable

/-- How many sequences and records may stand in one another where they are used. -/
def nestingLimit : Nat := 127

/-- A sequence or a record where there is room for so many in one another. -/
def nested (room : Nat) (data : Data) : Data := if room = 0 then .unusable else data

mutual

/-- The value at the start of a text, and what follows it. Each call uses one unit of fuel, and
twice the length of the text is enough; `room` is how deep values may still be nested. -/
def value : Nat → Nat → List Char → Option (Data × List Char)
  | 0, _, _ => none
  | fuel + 1, room, chars =>
    match skipBlanks chars with
    | 'n' :: 'u' :: 'l' :: 'l' :: rest => some (.null, rest)
    | 't' :: 'r' :: 'u' :: 'e' :: rest => some (.boolean true, rest)
    | 'f' :: 'a' :: 'l' :: 's' :: 'e' :: rest => some (.boolean false, rest)
    | '"' :: rest => (quotedContent rest).map fun (content, rest) ↦ (textValue content, rest)
    | '[' :: rest => match skipBlanks rest with
      | ']' :: rest => some (nested room (.sequence []), rest)
      | rest => (items fuel (room - 1) rest).map fun (items, rest) ↦
          (nested room (.sequence items), rest)
    | '\x7b' :: rest => match skipBlanks rest with
      | '\x7d' :: rest => some (nested room (.record []), rest)
      | rest => (fields fuel (room - 1) rest).map fun (fields, rest) ↦
          (nested room (recordValue fields), rest)
    | chars => number chars

/-- The items of a sequence from the first one to the closing bracket. -/
def items : Nat → Nat → List Char → Option (List Data × List Char)
  | 0, _, _ => none
  | fuel + 1, room, chars => do
    let (item, rest) ← value fuel room chars
    match skipBlanks rest with
    | ',' :: rest =>
      let (more, rest) ← items fuel room rest
      some (item :: more, rest)
    | ']' :: rest => some ([item], rest)
    | _ => none

/-- The fields of a record from the first one to the closing brace. -/
def fields : Nat → Nat → List Char → Option (List (Option String × Data) × List Char)
  | 0, _, _ => none
  | fuel + 1, room, chars =>
    match skipBlanks chars with
    | '"' :: rest => do
      let (name, rest) ← quotedContent rest
      match skipBlanks rest with
      | ':' :: rest =>
        let (item, rest) ← value fuel room rest
        match skipBlanks rest with
        | ',' :: rest =>
          let (more, rest) ← fields fuel room rest
          some ((name, item) :: more, rest)
        | '\x7d' :: rest => some ([(name, item)], rest)
        | _ => none
      | _ => none
    | _ => none

end

/-- The data of a JSON text. -/
def read (text : String) : Option Data :=
  let chars := text.toList
  match value (2 * chars.length + 2) nestingLimit chars with
  | some (data, rest) => if skipBlanks rest = [] then some data else none
  | none => none

end TrialSeries.Json
