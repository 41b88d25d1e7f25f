import TrialSeries.Data

/-!
# Structures in data trees

A structure is written as a record of its fields, where unknown fields are passed over and a known
one may stand only once, or as a sequence of its fields in their fixed order, which may end early
where the missing fields have defaults.
-/

namespace TrialSeries.Data

/-- What a data tree says about one field of a structure. -/
inductive Slot where
  | given (data : Data)
  /-- A record without the field. -/
  | omitted
  /-- A sequence that ends before the field. -/
  | cutOff

/-- The values of a field in a record. -/
def valuesOf (name : String) (fields : List (String × Data)) : List Data :=
  (fields.filter (·.1 == name)).map (·.2)

def slotOfValues : List Data → Option Slot
  | [] => some .omitted
  | [value] => some (.given value)
  | _ => none

/-- One slot for each field name of a structure. -/
def slots? (names : List String) : Data → Option (List Slot)
  | record fields => names.mapM fun name ↦ slotOfValues (valuesOf name fields)
  | sequence items =>
    if items.length ≤ names.length then
      some (items.map Slot.given ++ List.replicate (names.length - items.length) .cutOff)
    else none
  | _ => none

namespace Slot

/-- A field that has to be there. -/
def required {α : Type} (read : Data → Option α) : Slot → Option α
  | given data => read data
  | _ => none

/-- A field with a default. -/
def orDefault {α : Type} (read : Data → Option α) (default : α) : Slot → Option α
  | given data => read data
  | _ => some default

/-- A field that a record may leave out. -/
def orOmitted {α : Type} (read : Data → Option α) : Slot → Option (Option α)
  | given data => data.optional? read
  | omitted => some none
  | cutOff => none

end Slot

/-- The field of a record, or nothing if there is no value for it. -/
def fieldIfPresent {α : Type} (name : String) (write : α → Data) : Option α → List (String × Data)
  | none => []
  | some value => [(name, write value)]

end TrialSeries.Data
