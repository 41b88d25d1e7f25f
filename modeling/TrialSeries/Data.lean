import TrialSeries.Binary64

/-!
# Data trees

The common form of data files: what a JSON or a TOML text says, before it is taken as a value of
this library. A record keeps its fields in order and may name one twice.
-/

namespace TrialSeries

inductive Data where
  | null
  | boolean (value : Bool)
  | integer (value : Int)
  | real (value : Binary64)
  | text (content : String)
  /-- A piece of correct form without a value: a number beyond the range of binary64, a text with
  half of a surrogate pair, a record that has such a text as a field name, or a sequence or record
  nested too deep for its format. It may be skipped and may not be used. -/
  | unusable
  | sequence (items : List Data)
  | record (fields : List (String × Data))
deriving Inhabited

namespace Data

/-- A natural number below `2 ^ 64`. -/
def natural? : Data → Option Nat
  | integer value => if 0 ≤ value ∧ value < UInt64.size then some value.toNat else none
  | _ => none

/-- A number as a binary64 value; integers are rounded. -/
def real? : Data → Option Binary64
  | integer value => some (Binary64.nearest (value < 0) value.natAbs 1)
  | real value => some value
  | _ => none

def text? : Data → Option String
  | text content => some content
  | _ => none

def boolean? : Data → Option Bool
  | boolean value => some value
  | _ => none

def list? {α : Type} (read : Data → Option α) : Data → Option (List α)
  | sequence items => items.mapM read
  | _ => none

/-- Null stands for an absent value. -/
def optional? {α : Type} (read : Data → Option α) : Data → Option (Option α)
  | null => some none
  | data => (read data).map some

/-- A text of exactly one character. -/
def character? : Data → Option Char
  | text content => match content.toList with
    | [char] => some char
    | _ => none
  | _ => none

mutual

/-- The whole tree can be used. -/
def isUsable : Data → Bool
  | unusable => false
  | sequence items => areUsable items
  | record fields => haveUsableValues fields
  | _ => true

def areUsable : List Data → Bool
  | [] => true
  | item :: items => item.isUsable && areUsable items

def haveUsableValues : List (String × Data) → Bool
  | [] => true
  | (_, value) :: fields => value.isUsable && haveUsableValues fields

end

end Data

end TrialSeries
