import TrialSeries.Aggregation
import TrialSeries.Data.Structure
import TrialSeries.RuleTable

/-!
# Rules as data

How extraction rules, rule tables and the choice of alignment stand in configuration files and
messages. An extraction rule is a record whose field `kind` says which rule it is, or a sequence
that begins with the kind; separators that are left out have their defaults.
-/

namespace TrialSeries

open Data

/-- The formats of data files. -/
inductive DataFormat where
  | json
  | toml
deriving DecidableEq

/-- A choice that carries nothing may be written as a record from its name to nothing: to null, or
where there is no null to an empty record or sequence. -/
def DataFormat.isNothing (format : DataFormat) (data : Data) : Bool :=
  match format, data with
  | .json, .null => true
  | .toml, .record [] => true
  | .toml, .sequence [] => true
  | _, _ => false

/-- The slots of a structure. In TOML a sequence may go on after the fields of the structure. -/
def DataFormat.slots? (format : DataFormat) (names : List String) (data : Data) :
    Option (List Slot) :=
  match format, data with
  | .toml, .sequence items => Data.slots? names (.sequence (items.take names.length))
  | _, data => Data.slots? names data

namespace Alignment

def name : Alignment → String
  | truncate => "truncate_to_shortest"
  | reject => "reject"

def ofName? (name : String) : Option Alignment :=
  if name = "truncate_to_shortest" then some .truncate
  else if name = "reject" then some .reject
  else none

def toData (alignment : Alignment) : Data := .text alignment.name

def ofData? (format : DataFormat) : Data → Option Alignment
  | .text name => ofName? name
  | .record [(name, data)] => if format.isNothing data then ofName? name else none
  | _ => none

end Alignment

namespace Extraction

def toData : Extraction → Data
  | field index separator =>
    .record [("kind", .text "field"), ("index", .integer index),
      ("separator", .text (String.singleton separator))]
  | whole => .record [("kind", .text "raw")]
  | vector separator =>
    .record [("kind", .text "vector"), ("separator", .text (String.singleton separator))]

/-- The rule of a kind, the other parts being given as data. -/
def ofKind? (kind : String) (parts : Data) : Option Extraction :=
  if kind = "field" then do
    let [index, separator] ← slots? ["index", "separator"] parts | none
    return .field (← index.required natural?)
      (← separator.orDefault character? defaultFieldSeparator)
  else if kind = "raw" then
    match parts with
    | .sequence (_ :: _) => none
    | _ => some .whole
  else if kind = "vector" then do
    let [separator] ← slots? ["separator"] parts | none
    return .vector (← separator.orDefault character? defaultVectorSeparator)
  else none

/-- The rule in a data tree. All parts of a rule are read before its kind is known, so none may be
unusable. -/
def ofData? : Data → Option Extraction
  | .record fields =>
    match valuesOf "kind" fields with
    | [.text kind] =>
      let parts := fields.filter (·.1 ≠ "kind")
      if haveUsableValues parts then ofKind? kind (.record parts) else none
    | _ => none
  | .sequence (.text kind :: parts) =>
    if areUsable parts then ofKind? kind (.sequence parts) else none
  | _ => none

end Extraction

namespace TrialRule

def toData (rule : TrialRule) : Data :=
  .record ([("trial", .text rule.trial)] ++ fieldIfPresent "run_contains" .text rule.fragment ++
    [("extract", rule.extraction.toData)])

def ofData? (format : DataFormat) (data : Data) : Option TrialRule := do
  let [trial, fragment, extraction] ←
    format.slots? ["trial", "run_contains", "extract"] data | none
  return ⟨← trial.required text?, ← fragment.orDefault (optional? text?) none,
    ← extraction.required Extraction.ofData?⟩

end TrialRule

namespace RuleTable

def toData (table : RuleTable) : Data :=
  .record ([("rules", .sequence (table.rules.map TrialRule.toData))] ++
    fieldIfPresent "fallback" Extraction.toData table.fallback)

/-- The table in a data tree; the built-in rules stand in for rules that are left out. -/
def ofData? (format : DataFormat) (data : Data) : Option RuleTable := do
  let [rules, fallback] ← format.slots? ["rules", "fallback"] data | none
  return ⟨← rules.orDefault (list? (TrialRule.ofData? format)) builtInRules,
    ← fallback.orDefault (optional? Extraction.ofData?) none⟩

end RuleTable

end TrialSeries
