import TrialSeries.Axis
import TrialSeries.NumberList

/-!
# Extracting the axis from a settings line

Each experiment writes its settings in its own way. A rule says which part of the settings is the
swept parameter: one field of a separated tuple, the whole text as a label, or a vector of numbers.
Blanks around the settings never count.
-/

namespace TrialSeries

inductive Extraction where
  /-- One field, counted from zero, of a tuple such as `3_5_0.2`. -/
  | field (index : Nat) (separator : Char)
  /-- The settings as a label. -/
  | whole
  /-- All positions of a vector such as `0,1000,2000`. -/
  | vector (separator : Char)
deriving DecidableEq, Inhabited

namespace Extraction

def defaultFieldSeparator : Char := '_'

def defaultVectorSeparator : Char := ','

/-- The axis of the settings that stand on a line. -/
def extract (rule : Extraction) (settings : List Char) (line : Nat) : Except LogError Axis :=
  let settings := Text.trim settings
  match rule with
  | field index separator =>
    match (Text.splitOn separator settings)[index]? with
    | some found => .ok (.point (Setting.ofField found))
    | none => .error (.missingField line (String.ofList settings) index separator)
  | whole => .ok (.point (.label (String.ofList settings)))
  | vector separator =>
    (NumberList.read separator "settings" line settings).map fun values ↦
      .positions (values.map Binary64.normalizeZero)

/-- The rule as the log of the program names it. -/
def describe : Extraction → String
  | field index separator =>
    "Field \x7b index: " ++ toString index ++ ", separator: " ++ Text.quoteChar separator ++ " \x7d"
  | whole => "Raw"
  | vector separator => "Vector \x7b separator: " ++ Text.quoteChar separator ++ " \x7d"

end Extraction

end TrialSeries
