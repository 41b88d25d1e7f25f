import Mathlib.Data.List.Infix
import TrialSeries.RuleTable

/-!
# Editing a rule table

The first rule for a run is the one that counts, so a table is looked up like its front with the
answer of its back as the fallback. A rule that is put in counts where it is the first one for a run
and nowhere else. Neighbouring rules may change places unless a run exists that both are for, and a
rule may go if an earlier one is for all its runs.
-/

namespace TrialSeries

theorem Text.occursIn_iff {fragment chars : List Char} :
    occursIn fragment chars = true ↔ fragment <:+: chars := by
  induction chars with
  | nil => simp [occursIn]
  | cons char rest ih =>
    rw [occursIn, Bool.or_eq_true, ih, List.isPrefixOf_iff_prefix, List.infix_cons_iff]

namespace TrialRule

/-! ## The runs of a rule -/

/-- A rule is for the runs of its trial, or for those of them whose names contain its fragment. -/
structure IsFor (rule : TrialRule) (trial run : String) : Prop where
  trial_eq : rule.trial = trial
  isInfix : ∀ fragment, rule.fragment = some fragment → fragment.toList <:+: run.toList

theorem appliesTo_iff {rule : TrialRule} {trial run : String} :
    rule.appliesTo trial run = true ↔ rule.IsFor trial run := by
  have hfields : rule.IsFor trial run ↔ rule.trial = trial ∧
      ∀ fragment, rule.fragment = some fragment → fragment.toList <:+: run.toList :=
    ⟨fun h ↦ ⟨h.trial_eq, h.isInfix⟩, fun h ↦ ⟨h.1, h.2⟩⟩
  rw [hfields, appliesTo, Bool.and_eq_true, beq_iff_eq]
  apply and_congr_right
  intro _
  cases hfragment : rule.fragment with
  | none => simp
  | some fragment => simp [Text.occursIn_iff]

instance (rule : TrialRule) (trial run : String) : Decidable (rule.IsFor trial run) :=
  decidable_of_iff _ appliesTo_iff

/-- The shortest name that a run of a rule can have. -/
def shortestRun (rule : TrialRule) : String := rule.fragment.getD ""

/-- A rule is for all runs with names that contain its shortest one. -/
theorem isFor_iff {rule : TrialRule} {trial run : String} :
    rule.IsFor trial run ↔ rule.trial = trial ∧ rule.shortestRun.toList <:+: run.toList := by
  constructor
  · intro h
    refine ⟨h.trial_eq, ?_⟩
    cases hfragment : rule.fragment with
    | none => simp [shortestRun, hfragment]
    | some fragment => simpa [shortestRun, hfragment] using h.isInfix fragment hfragment
  · rintro ⟨htrial, hinfix⟩
    refine ⟨htrial, ?_⟩
    intro fragment hfragment
    simpa [shortestRun, hfragment] using hinfix

theorem isFor_shortestRun (rule : TrialRule) : rule.IsFor rule.trial rule.shortestRun :=
  isFor_iff.2 ⟨rfl, List.infix_rfl⟩

/-- Rules of one trial share a run: its name contains what both ask for. -/
theorem exists_isFor_iff {left right : TrialRule} :
    (∃ trial run, left.IsFor trial run ∧ right.IsFor trial run) ↔ left.trial = right.trial := by
  constructor
  · rintro ⟨trial, run, hleft, hright⟩
    exact hleft.trial_eq.trans hright.trial_eq.symm
  · intro htrial
    refine ⟨left.trial, left.shortestRun ++ right.shortestRun, ?_, ?_⟩
    · apply isFor_iff.2
      rw [String.toList_append]
      exact ⟨rfl, (List.prefix_append _ _).isInfix⟩
    · apply isFor_iff.2
      rw [String.toList_append]
      exact ⟨htrial.symm, (List.suffix_append _ _).isInfix⟩

/-- A rule implies another one of its trial if it has no fragment, or one that the other rule's
fragment contains. -/
structure Covers (earlier later : TrialRule) : Prop where
  trial_eq : earlier.trial = later.trial
  isInfix : ∀ fragment, earlier.fragment = some fragment →
    fragment.toList <:+: later.shortestRun.toList

/-- A rule implies another one exactly if it is for all runs of the other one. -/
theorem covers_iff {earlier later : TrialRule} :
    earlier.Covers later ↔ ∀ trial run, later.IsFor trial run → earlier.IsFor trial run := by
  constructor
  · intro hcovers trial run hlater
    obtain ⟨htrial, hrun⟩ := isFor_iff.1 hlater
    refine ⟨hcovers.trial_eq.trans htrial, ?_⟩
    intro fragment hfragment
    exact (hcovers.isInfix fragment hfragment).trans hrun
  · intro hall
    have hshortest := hall _ _ later.isFor_shortestRun
    exact ⟨hshortest.trial_eq, hshortest.isInfix⟩

end TrialRule

namespace RuleTable

/-! ## Lookups -/

section Lookup

variable {rules front : List TrialRule} {rule : TrialRule} {fallback : Option Extraction}
  {trial run : String}

theorem ruleFor?_cons :
    ruleFor? ⟨rule :: rules, fallback⟩ trial run =
      if rule.IsFor trial run then some rule.extraction
      else ruleFor? ⟨rules, fallback⟩ trial run := by
  by_cases hfor : rule.IsFor trial run
  · have happlies := TrialRule.appliesTo_iff.2 hfor
    simp [ruleFor?, happlies, hfor]
  · have hfails := mt TrialRule.appliesTo_iff.1 hfor
    simp [ruleFor?, hfails, hfor]

/-- The rules behind some others are a fallback for these. -/
theorem ruleFor?_append (front back : List TrialRule) :
    ruleFor? ⟨front ++ back, fallback⟩ trial run =
      ruleFor? ⟨front, ruleFor? ⟨back, fallback⟩ trial run⟩ trial run := by
  induction front with
  | nil => rfl
  | cons rule front ih => rw [List.cons_append, ruleFor?_cons, ruleFor?_cons, ih]

/-- The fallback is used if no rule is for a run. -/
theorem ruleFor?_of_forall_not (h : ∀ rule ∈ rules, ¬ rule.IsFor trial run) :
    ruleFor? ⟨rules, fallback⟩ trial run = fallback := by
  induction rules with
  | nil => rfl
  | cons rule rules ih =>
    obtain ⟨hrule, hrules⟩ := List.forall_mem_cons.1 h
    rw [ruleFor?_cons, if_neg hrule, ih hrules]

/-- The fallback makes no difference if some rule is for a run. -/
theorem ruleFor?_congr_fallback (h : ∃ rule ∈ rules, rule.IsFor trial run)
    (fallback other : Option Extraction) :
    ruleFor? ⟨rules, fallback⟩ trial run = ruleFor? ⟨rules, other⟩ trial run := by
  induction rules with
  | nil => simp at h
  | cons rule rules ih =>
    rw [ruleFor?_cons, ruleFor?_cons]
    split
    · rfl
    · rename_i hrule
      exact ih (by simpa [hrule] using h)

/-! ## Edits -/

/-- A rule that is put in counts if it is for a run and no rule before it is. -/
theorem ruleFor?_insert (front back : List TrialRule) :
    ruleFor? ⟨front ++ rule :: back, fallback⟩ trial run =
      if rule.IsFor trial run ∧ ∀ other ∈ front, ¬ other.IsFor trial run then some rule.extraction
      else ruleFor? ⟨front ++ back, fallback⟩ trial run := by
  rw [ruleFor?_append, ruleFor?_append]
  by_cases hfront : ∀ other ∈ front, ¬ other.IsFor trial run
  · rw [ruleFor?_of_forall_not hfront, ruleFor?_of_forall_not hfront, ruleFor?_cons]
    simp only [and_iff_left hfront]
  · rw [if_neg fun hboth ↦ hfront hboth.2]
    apply ruleFor?_congr_fallback
    simpa using hfront

/-- Exchanging neighbouring rules changes the lookups of the runs that both are for and no rule before
them is, if they say different things. -/
theorem ruleFor?_exchange_ne_iff {left right : TrialRule} (front back : List TrialRule) :
    ruleFor? ⟨front ++ right :: left :: back, fallback⟩ trial run ≠
        ruleFor? ⟨front ++ left :: right :: back, fallback⟩ trial run ↔
      (left.IsFor trial run ∧ right.IsFor trial run) ∧
        (∀ other ∈ front, ¬ other.IsFor trial run) ∧ left.extraction ≠ right.extraction := by
  rw [ruleFor?_append, ruleFor?_append front]
  by_cases hfront : ∀ other ∈ front, ¬ other.IsFor trial run
  · rw [ruleFor?_of_forall_not hfront, ruleFor?_of_forall_not hfront]
    simp only [ruleFor?_cons, and_iff_right hfront]
    by_cases hleft : left.IsFor trial run <;> by_cases hright : right.IsFor trial run <;>
      simp [hleft, hright, eq_comm]
  · have hsame := ruleFor?_congr_fallback (by simpa using hfront)
      (ruleFor? ⟨right :: left :: back, fallback⟩ trial run)
      (ruleFor? ⟨left :: right :: back, fallback⟩ trial run)
    simp [hsame, hfront]

end Lookup

/-- A rule behind another one is never needed exactly if the other one covers it. -/
theorem covers_iff_ruleFor?_remove {earlier later : TrialRule} :
    earlier.Covers later ↔ ∀ (front middle back : List TrialRule) (fallback : Option Extraction)
      (trial run : String),
      ruleFor? ⟨front ++ earlier :: middle ++ back, fallback⟩ trial run =
        ruleFor? ⟨front ++ earlier :: middle ++ later :: back, fallback⟩ trial run := by
  rw [TrialRule.covers_iff]
  constructor
  · intro hcovers front middle back fallback trial run
    rw [ruleFor?_insert, if_neg]
    rintro ⟨hlater, hfront⟩
    exact hfront earlier (by simp) (hcovers trial run hlater)
  · intro hsame trial run hlater
    by_contra hearlier
    have htwo := hsame [] [] [] none trial run
    simp only [List.nil_append, List.append_nil, List.cons_append, ruleFor?_cons, if_neg hearlier,
      if_pos hlater] at htwo
    cases htwo

/-- Edits of a table are seen where they are made. A rule that is put in answers for the runs for
which it is the first rule, and all other lookups stay. An exchange of neighbours is seen only by
runs that both rules are for, and there are such runs exactly if the rules share their trial. A rule
may go from every place behind another one exactly if that one covers it. -/
theorem ruleFor?_of_edits :
    (∀ (front back : List TrialRule) (rule : TrialRule) (fallback : Option Extraction)
      (trial run : String),
      ruleFor? ⟨front ++ rule :: back, fallback⟩ trial run =
        if rule.IsFor trial run ∧ ∀ other ∈ front, ¬ other.IsFor trial run then
          some rule.extraction
        else ruleFor? ⟨front ++ back, fallback⟩ trial run) ∧
    (∀ (front back : List TrialRule) (left right : TrialRule) (fallback : Option Extraction)
      (trial run : String),
      ruleFor? ⟨front ++ right :: left :: back, fallback⟩ trial run ≠
          ruleFor? ⟨front ++ left :: right :: back, fallback⟩ trial run ↔
        (left.IsFor trial run ∧ right.IsFor trial run) ∧
          (∀ other ∈ front, ¬ other.IsFor trial run) ∧ left.extraction ≠ right.extraction) ∧
    (∀ left right : TrialRule,
      (∃ trial run, left.IsFor trial run ∧ right.IsFor trial run) ↔ left.trial = right.trial) ∧
    ∀ earlier later : TrialRule,
      earlier.Covers later ↔ ∀ (front middle back : List TrialRule)
        (fallback : Option Extraction) (trial run : String),
        ruleFor? ⟨front ++ earlier :: middle ++ back, fallback⟩ trial run =
          ruleFor? ⟨front ++ earlier :: middle ++ later :: back, fallback⟩ trial run := by
  refine ⟨?_, ?_, fun _ _ ↦ TrialRule.exists_isFor_iff, fun _ _ ↦ covers_iff_ruleFor?_remove⟩
  · intro front back rule fallback trial run
    exact ruleFor?_insert front back
  · intro front back left right fallback trial run
    exact ruleFor?_exchange_ne_iff front back

end RuleTable

end TrialSeries
