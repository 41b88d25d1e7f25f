import TrialSeries.Proofs.ReportSections

/-!
# Links from the contents to the results

An entry of the contents links to its run by an anchor that the heading of the run bears, too. The
anchor is made of the trial and the run, where letter case and four separators are folded, so that
a link leads to the heading of its own run only as long as the folded names are distinct. Where a
trial goes on with a dash at the end of another trial, a part of it may also be taken for a run.
-/

open scoped List

namespace TrialSeries

namespace Text

/-! ## Lower case at a dash -/

theorem meetsCased_append_dash (front back : List Char) :
    meetsCased (front ++ '-' :: back) = meetsCased front := by
  have hdash : isCaseIgnorable '-' = false := by decide +kernel
  have hcased : isCased '-' = false := by decide +kernel
  have hstop : ('-' :: back).dropWhile isCaseIgnorable = '-' :: back := by simp [hdash]
  unfold meetsCased
  rw [List.dropWhile_append, hstop]
  cases hfront : front.dropWhile isCaseIgnorable with
  | nil => simpa using hcased
  | cons char rest => rfl

/-- What stands before a dash makes no difference behind it. -/
theorem lowerFrom_dash (before front chars : List Char) :
    lowerFrom (before ++ '-' :: front) chars = lowerFrom before chars := by
  induction chars generalizing before with
  | nil => rfl
  | cons char rest ih =>
    rw [lowerFrom, lowerFrom, meetsCased_append_dash, ← List.cons_append, ih]

/-- The parts of a text before and behind a dash have their lower case apart from each other. -/
theorem lowerFrom_append_dash (before front back : List Char) :
    lowerFrom before (front ++ '-' :: back) =
      lowerFrom before front ++ '-' :: lowerFrom [] back := by
  induction front generalizing before with
  | nil =>
    calc
      _ = '-' :: lowerFrom ('-' :: before) back := rfl
      _ = '-' :: lowerFrom [] back := congrArg _ (lowerFrom_dash [] before back)
  | cons char front ih =>
    rw [List.cons_append, lowerFrom, lowerFrom, meetsCased_append_dash, ih, List.append_assoc]

end Text

namespace Report

namespace Markdown

/-! ## Anchors -/

/-- A name without its letter case and with dashes for other separators. -/
def foldedName (name : String) : String :=
  Text.lower (String.ofList (name.toList.map separatorsToDashes))

theorem anchor_eq (trial run : String) :
    anchor trial run = foldedName trial ++ "-" ++ foldedName run := by
  have hdash : separatorsToDashes '-' = '-' := by decide
  simp [anchor, foldedName, Text.lower, Text.lowerFrom_append_dash, hdash, ← String.toList_inj]

/-- If neither trial goes on with a dash where the other one ends, then anchors are equal as the
folded names are. -/
theorem anchor_eq_anchor_iff {trial other run another : String}
    (hforth : (foldedName trial ++ "-").toList <+: (foldedName other ++ "-").toList →
      foldedName trial = foldedName other)
    (hback : (foldedName other ++ "-").toList <+: (foldedName trial ++ "-").toList →
      foldedName other = foldedName trial) :
    anchor trial run = anchor other another ↔
      foldedName trial = foldedName other ∧ foldedName run = foldedName another := by
  constructor
  · intro h
    have hchars : (foldedName trial ++ "-").toList ++ (foldedName run).toList =
        (foldedName other ++ "-").toList ++ (foldedName another).toList := by
      simpa [anchor_eq] using congrArg String.toList h
    have htrial : foldedName trial = foldedName other := by
      rcases List.prefix_or_prefix_of_prefix ⟨_, hchars⟩ (List.prefix_append _ _) with
        hprefix | hprefix
      · exact hforth hprefix
      · exact (hback hprefix).symm
    rw [htrial] at hchars
    exact ⟨htrial, String.toList_inj.1 (List.append_cancel_left hchars)⟩
  · intro h
    rw [anchor_eq, anchor_eq, h.1, h.2]

end Markdown

open Markdown

/-! ## Entries and headings -/

/-- The runs that have an entry in the contents and a heading in the results, in this order. -/
def shownRuns (runs : List RunResult) : List RunResult :=
  (reportOrder runs).filter (·.isSuccess)

/-- The anchor of a run. -/
def anchorOf (run : RunResult) : String := anchor run.trial run.run

/-- The contents have an entry and the results have a heading for each of some runs, and the anchor
in the entry of a run is the anchor of one heading, which is the heading of this run. -/
structure ResolvesLinks (contents results : List String) (shown : List RunResult) : Prop where
  entries : marked "    - " contents = shown.map entryText
  headings : marked "#### " results = shown.map headingText
  own : ∀ run ∈ shown, (shown.filter fun other ↦ anchorOf other = anchorOf run) = [run]

/-- No trial goes on with a dash where another trial ends, letter case and separators apart. -/
def HaveTrialsApart (shown : List RunResult) : Prop :=
  ∀ left ∈ shown, ∀ right ∈ shown,
    (foldedName left.trial ++ "-").toList <+: (foldedName right.trial ++ "-").toList →
      foldedName left.trial = foldedName right.trial

theorem filter_eq_singleton_iff_nodup {α β : Type} [DecidableEq β] {items : List α} {f : α → β} :
    (∀ item ∈ items, (items.filter fun other ↦ f other = f item) = [item]) ↔
      (items.map f).Nodup := by
  induction items with
  | nil => simp
  | cons head rest ih =>
    have hhead : ((head :: rest).filter fun other ↦ f other = f head) = [head] ↔
        f head ∉ rest.map f := by
      rw [List.filter_cons_of_pos (by simp)]
      simp [List.filter_eq_nil_iff]
    rw [List.map_cons, List.nodup_cons, ← ih, List.forall_mem_cons, hhead]
    apply and_congr_right
    intro hnone
    apply forall₂_congr
    intro item hitem
    have hne : f head ≠ f item := fun heq ↦ hnone (heq ▸ List.mem_map_of_mem hitem)
    rw [List.filter_cons_of_neg (by simpa using hne)]

section Links

variable {precision : Nat} {runs : List RunResult} {lines : List String}

theorem marked_entries (runs : List RunResult) :
    marked "    - " (contentsLines runs) = (shownRuns runs).map entryText := by
  have htitle : contentsLines runs = "## Table of Contents" :: (contentsLines runs).tail := rfl
  rw [htitle, marked_cons_of_none (by decide), marked_contentsLines]
  rfl

theorem marked_headings (h : resultsLines precision runs = .ok lines) :
    marked "#### " lines = (shownRuns runs).map headingText := by
  rw [← eq_of_resultsLines h, marked_cons_of_none (by decide), marked_resultsText]
  rfl

theorem resolvesLinks_iff_nodup (h : resultsLines precision runs = .ok lines) :
    ResolvesLinks (contentsLines runs) lines (shownRuns runs) ↔
      ((shownRuns runs).map anchorOf).Nodup := by
  rw [← filter_eq_singleton_iff_nodup]
  constructor
  · exact ResolvesLinks.own
  · exact fun hown ↦ ⟨marked_entries runs, marked_headings h, hown⟩

theorem nodup_map_anchorOf_iff {shown : List RunResult} (h : HaveTrialsApart shown) :
    (shown.map anchorOf).Nodup ↔
      (shown.map fun run ↦ (foldedName run.trial, foldedName run.run)).Nodup := by
  rw [List.Nodup, List.Nodup, List.pairwise_map, List.pairwise_map]
  apply List.Pairwise.iff_of_mem
  intro left right hleft hright
  rw [Ne, Ne, anchorOf, anchorOf, anchor_eq_anchor_iff (h left hleft right hright)
    (h right hright left hleft), Prod.mk.injEq]

end Links

/-- Each shown run has its entry and its heading. The links resolve if and only if the anchors of
the shown runs are distinct. If no trial goes on with a dash where another trial ends, this comes down
to names that are distinct, letter case and separators apart. -/
theorem links_resolve_iff {precision : Nat} {runs : List RunResult} {lines : List String}
    (h : resultsLines precision runs = .ok lines) :
    marked "    - " (contentsLines runs) = (shownRuns runs).map entryText ∧
      marked "#### " lines = (shownRuns runs).map headingText ∧
      (ResolvesLinks (contentsLines runs) lines (shownRuns runs) ↔
        ((shownRuns runs).map anchorOf).Nodup) ∧
      (HaveTrialsApart (shownRuns runs) →
        (ResolvesLinks (contentsLines runs) lines (shownRuns runs) ↔
          ((shownRuns runs).map fun run ↦ (foldedName run.trial, foldedName run.run)).Nodup)) := by
  refine ⟨marked_entries runs, marked_headings h, resolvesLinks_iff_nodup h, ?_⟩
  intro hapart
  rw [resolvesLinks_iff_nodup h, nodup_map_anchorOf_iff hapart]

/-- Runs of two trials, two of them with the same name. -/
def linkedRuns : List RunResult :=
  [⟨"PART_SIZE", "a.csv", "PART_SIZE/a.csv", some Series.empty, none⟩,
   ⟨"PART_DISC", "b.csv", "PART_DISC/b.csv", some Series.empty, none⟩,
   ⟨"PART_DISC", "a.csv", "PART_DISC/a.csv", some Series.empty, none⟩]

theorem links_resolve_iff_linkedRuns :
    ∃ lines, resultsLines 3 linkedRuns = .ok lines ∧ HaveTrialsApart (shownRuns linkedRuns) ∧
      ((shownRuns linkedRuns).map fun run ↦ (foldedName run.trial, foldedName run.run)).Nodup ∧
      ResolvesLinks (contentsLines linkedRuns) lines (shownRuns linkedRuns) := by
  obtain ⟨lines, hlines⟩ : ∃ lines, resultsLines 3 linkedRuns = .ok lines := ⟨_, rfl⟩
  have hapart : HaveTrialsApart (shownRuns linkedRuns) := by
    unfold HaveTrialsApart
    decide +kernel
  have hnodup : ((shownRuns linkedRuns).map fun run ↦
      (foldedName run.trial, foldedName run.run)).Nodup := by decide +kernel
  obtain ⟨-, -, -, hresolve⟩ := links_resolve_iff hlines
  exact ⟨lines, hlines, hapart, hnodup, (hresolve hapart).2 hnodup⟩

/-- Two runs of a trial whose names differ in a separator only. -/
def confusedRuns : List RunResult :=
  [⟨"T", "a.b", "T/a.b", some Series.empty, none⟩, ⟨"T", "a_b", "T/a_b", some Series.empty, none⟩]

/-- Distinct names are not enough: both links of two runs lead to the first of two headings with the
same anchor. -/
theorem not_forall_resolvesLinks :
    ¬ ∀ (precision : Nat) (runs : List RunResult) (lines : List String), HaveDistinctNames runs →
      resultsLines precision runs = .ok lines →
        ResolvesLinks (contentsLines runs) lines (shownRuns runs) := by
  intro h
  have hresolve := h 3 confusedRuns _ (by decide) rfl
  have hshown : shownRuns confusedRuns = confusedRuns := by decide
  have hboth : (confusedRuns.filter fun other ↦
      anchorOf other = anchorOf ⟨"T", "a.b", "T/a.b", some Series.empty, none⟩) = confusedRuns := by
    decide +kernel
  rw [hshown] at hresolve
  have hown := hresolve.own _ List.mem_cons_self
  rw [hboth] at hown
  exact absurd (congrArg List.length hown) (by decide)

end Report

end TrialSeries
