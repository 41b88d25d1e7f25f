import TrialSeries.Decimal.Notation
import TrialSeries.Json.Quoted

/-!
# Writing JSON

Data has one text up to blanks, which a layout adds. Compact JSON has none; indented JSON has one item
or field a line, two more blanks at each level, and nothing between the brackets of an empty sequence
or record. A number that is not finite is written as null.
-/

namespace TrialSeries.Json

/-- The text of a token; sequences and records are no tokens. -/
def token : Data → List Char
  | .null => "null".toList
  | .boolean value => (if value then "true" else "false").toList
  | .integer value => (toString value).toList
  | .real value => (if value.isFinite then value.dataText else "null").toList
  | .text content => quoted content
  | _ => "null".toList

/-- The blanks between the tokens. -/
structure Layout where
  /-- What stands before an item, a field or a closing bracket at a depth. -/
  line : Nat → List Char
  /-- What stands behind the colon of a field. -/
  gap : List Char

namespace Layout

/-- The start of a line at a depth. -/
def newLine (depth : Nat) : List Char := '\n' :: List.replicate (2 * depth) ' '

def compact : Layout := ⟨fun _ ↦ [], []⟩

def indented : Layout := ⟨newLine, [' ']⟩

mutual

/-- The text of data in a layout. -/
def chars (layout : Layout) (depth : Nat) : Data → List Char
  | .sequence [] => ['[', ']']
  | .sequence items => '[' :: layout.itemChars (depth + 1) items ++ layout.line depth ++ [']']
  | .record [] => ['\x7b', '\x7d']
  | .record fields =>
    '\x7b' :: layout.fieldChars (depth + 1) fields ++ layout.line depth ++ ['\x7d']
  | data => token data

def itemChars (layout : Layout) (depth : Nat) : List Data → List Char
  | [] => []
  | [item] => layout.line depth ++ layout.chars depth item
  | item :: items =>
    layout.line depth ++ layout.chars depth item ++ ',' :: layout.itemChars depth items

def fieldChars (layout : Layout) (depth : Nat) : List (String × Data) → List Char
  | [] => []
  | [(name, value)] =>
    layout.line depth ++ quoted name ++ ':' :: layout.gap ++ layout.chars depth value
  | (name, value) :: fields =>
    layout.line depth ++ quoted name ++ ':' :: layout.gap ++ layout.chars depth value ++
      ',' :: layout.fieldChars depth fields

end

end Layout

/-- The data in compact JSON. -/
def compact (data : Data) : String := String.ofList (Layout.compact.chars 0 data)

/-- The data in indented JSON. -/
def indented (data : Data) : String := String.ofList (Layout.indented.chars 0 data)

end TrialSeries.Json
