import TrialSeries.Text.Quoted

/-!
# What can be wrong with a run log
-/

namespace TrialSeries

/-- A failure to read a run log. Lines are counted from one, blank lines included. -/
inductive LogError where
  /-- A line that is not blank has no colon. -/
  | missingSeparator (line : Nat) (content : String)
  /-- A piece of a list is not a number literal. -/
  | invalidNumber (line : Nat) (field literal : String)
  /-- The settings have fewer fields than the rule asks for. -/
  | missingField (line : Nat) (settings : String) (index : Nat) (separator : Char)
deriving DecidableEq

namespace LogError

def line : LogError → Nat
  | missingSeparator line _ => line
  | invalidNumber line _ _ => line
  | missingField line _ _ _ => line

def message : LogError → String
  | missingSeparator line content =>
    "line " ++ toString line ++ ": expected `name:payload`, found " ++ Text.quote content
  | invalidNumber line field literal =>
    "line " ++ toString line ++ ": invalid number " ++ Text.quote literal ++ " in " ++
      Text.quote field
  | missingField line settings index separator =>
    "line " ++ toString line ++ ": settings " ++ Text.quote settings ++ " has no field " ++
      toString index ++ " (split on " ++ Text.quoteChar separator ++ ")"

end LogError

end TrialSeries
