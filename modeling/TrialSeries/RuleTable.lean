import TrialSeries.Extraction

/-!
# Rule tables

A table binds extraction rules to the runs of a trial, or to those of them whose name contains a
fragment. The first rule that matches a run is used, and the fallback if none does.
-/

namespace TrialSeries

structure TrialRule where
  trial : String
  /-- What the name of the run has to contain. -/
  fragment : Option String
  extraction : Extraction
deriving DecidableEq

/-- A rule applies to a run of a trial. -/
def TrialRule.appliesTo (rule : TrialRule) (trial run : String) : Bool :=
  rule.trial == trial && match rule.fragment with
    | some fragment => Text.occursIn fragment.toList run.toList
    | none => true

structure RuleTable where
  rules : List TrialRule
  /-- The rule for runs that no entry applies to. -/
  fallback : Option Extraction
deriving DecidableEq

namespace RuleTable

/-- The rules for the experiments of the simulator, which writes the settings of a sweep as
`hops_invites_leaders`. -/
def builtInRules : List TrialRule :=
  [⟨"PART_DISC", some "hopCount", .field 0 Extraction.defaultFieldSeparator⟩,
   ⟨"PART_DISC", some "maxNumberOfInvites", .field 1 Extraction.defaultFieldSeparator⟩,
   ⟨"SCORE_VS_PERC_LEADERS", some "percentageLeaders", .field 2 Extraction.defaultFieldSeparator⟩,
   ⟨"STATIC_REBALANCING_COMPARISON", none, .whole⟩,
   ⟨"DYNAMIC_REBALANCING_COMPARISON", none, .vector Extraction.defaultVectorSeparator⟩]

def builtIn : RuleTable := ⟨builtInRules, none⟩

instance : Inhabited RuleTable := ⟨builtIn⟩

/-- The extraction rule for a run of a trial. -/
def ruleFor? (table : RuleTable) (trial run : String) : Option Extraction :=
  match table.rules.find? (·.appliesTo trial run) with
  | some rule => some rule.extraction
  | none => table.fallback

end RuleTable

end TrialSeries
