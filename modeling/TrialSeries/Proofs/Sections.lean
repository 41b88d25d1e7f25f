import Mathlib.Data.List.Forall2

/-!
# Sections of a list

Some members of a list are headings. A heading opens a section, which holds the members after it up
to the next heading; the members before the first heading belong to no section.
-/

namespace TrialSeries

variable {α β γ δ : Type}

/-- What each heading says, with the members after it up to the next heading. -/
def sections (heading : α → Option γ) : List α → List (γ × List α)
  | [] => []
  | head :: rest =>
    match heading head with
    | some title => (title, rest.takeWhile fun member ↦ (heading member).isNone) ::
        sections heading rest
    | none => sections heading rest

/-- There is one section for each heading, in the order of the headings. -/
theorem map_fst_sections (heading : α → Option γ) (members : List α) :
    (sections heading members).map (·.1) = members.filterMap heading := by
  induction members with
  | nil => rfl
  | cons head rest ih =>
    cases hhead : heading head with
    | some title => simp [sections, hhead, ih]
    | none => simp [sections, hhead, ih]

theorem subset_of_mem_sections {heading : α → Option γ} {members : List α} {part : γ × List α}
    (h : part ∈ sections heading members) : part.2 ⊆ members := by
  induction members with
  | nil => cases h
  | cons head rest ih =>
    cases hhead : heading head with
    | none =>
      simp only [sections, hhead] at h
      exact List.subset_cons_of_subset _ (ih h)
    | some title =>
      simp only [sections, hhead, List.mem_cons] at h
      rcases h with rfl | h
      · exact List.subset_cons_of_subset _ (List.takeWhile_subset _)
      · exact List.subset_cons_of_subset _ (ih h)

/-- The members before the first heading belong to no section. -/
theorem sections_dropWhile (heading : α → Option γ) (members : List α) :
    sections heading (members.dropWhile fun member ↦ (heading member).isNone) =
      sections heading members := by
  induction members with
  | nil => rfl
  | cons head rest ih =>
    cases hhead : heading head with
    | some title => simp [hhead]
    | none => simp [sections, hhead, ih]

theorem sections_append_of_forall_none {heading : α → Option γ} {front : List α}
    (h : ∀ member ∈ front, heading member = none) (members : List α) :
    sections heading (front ++ members) = sections heading members := by
  induction front with
  | nil => rfl
  | cons head front ih =>
    obtain ⟨hhead, hfront⟩ := List.forall_mem_cons.1 h
    simp [sections, hhead, ih hfront]

/-- A list that begins with a heading, put behind another list, adds its own sections to those of
the other one. -/
theorem sections_append {heading : α → Option γ} {second : List α}
    (h : ∀ member ∈ second.head?, (heading member).isNone = false) (first : List α) :
    sections heading (first ++ second) = sections heading first ++ sections heading second := by
  have hstop : second.takeWhile (fun member ↦ (heading member).isNone) = [] := by
    cases second with
    | nil => rfl
    | cons head rest =>
      rw [List.takeWhile_cons, h head rfl]
      rfl
  induction first with
  | nil => rfl
  | cons head rest ih =>
    rw [List.cons_append, sections, sections, ih]
    cases heading head with
    | none => rfl
    | some title =>
      have hbody : (rest ++ second).takeWhile (fun member ↦ (heading member).isNone) =
          rest.takeWhile fun member ↦ (heading member).isNone := by
        rw [List.takeWhile_append, hstop, List.append_nil]
        split
        · rename_i hall
          exact ((List.takeWhile_prefix _).eq_of_length hall).symm
        · rfl
      dsimp only
      rw [hbody, List.cons_append]

/-- A list made of headings, each with members behind it that are none, has these as its
sections. -/
theorem sections_flatMap {ι : Type} {heading : α → Option γ} {parts : List ι} {first : ι → α}
    {body : ι → List α} {title : ι → γ}
    (hfirst : ∀ part ∈ parts, heading (first part) = some (title part))
    (hbody : ∀ part ∈ parts, ∀ member ∈ body part, heading member = none) :
    sections heading (parts.flatMap fun part ↦ first part :: body part) =
      parts.map fun part ↦ (title part, body part) := by
  induction parts with
  | nil => rfl
  | cons part parts ih =>
    obtain ⟨hfirst, hfirsts⟩ := List.forall_mem_cons.1 hfirst
    obtain ⟨hbody, hbodies⟩ := List.forall_mem_cons.1 hbody
    have htake : (parts.flatMap fun part ↦ first part :: body part).takeWhile
        (fun member ↦ (heading member).isNone) = [] := by
      cases parts with
      | nil => rfl
      | cons next parts => simp [hfirsts next]
    have hnone : ∀ member ∈ body part, (heading member).isNone = true := fun member hmember ↦ by
      rw [hbody member hmember, Option.isNone_none]
    rw [List.flatMap_cons, List.cons_append, sections, hfirst, List.map_cons,
      sections_append_of_forall_none hbody, ih hfirsts hbodies]
    dsimp only
    rw [List.takeWhile_append_of_pos hnone, htake, List.append_nil]

/-! ## Lists with corresponding members -/

variable {related : α → β → Prop} {items : List α} {others : List β}

theorem exists_mem_of_forall₂_left (h : List.Forall₂ related items others) {item : α}
    (hmem : item ∈ items) : ∃ other ∈ others, related item other := by
  induction h with
  | nil => cases hmem
  | cons hhead _ ih =>
    rcases List.mem_cons.1 hmem with rfl | hmem
    · exact ⟨_, List.mem_cons_self, hhead⟩
    · obtain ⟨other, hother, hrelated⟩ := ih hmem
      exact ⟨other, List.mem_cons_of_mem _ hother, hrelated⟩

theorem exists_mem_of_forall₂_right (h : List.Forall₂ related items others) {other : β}
    (hmem : other ∈ others) : ∃ item ∈ items, related item other :=
  exists_mem_of_forall₂_left (List.Forall₂.flip (R := flip related) h) hmem

theorem forall₂_takeWhile {keep : α → Bool} {keepOther : β → Bool}
    (h : List.Forall₂ related items others)
    (hkeep : ∀ item other, related item other → keep item = keepOther other) :
    List.Forall₂ related (items.takeWhile keep) (others.takeWhile keepOther) := by
  induction h with
  | nil => exact .nil
  | @cons item other items others hhead _ ih =>
    rw [List.takeWhile_cons, List.takeWhile_cons, hkeep item other hhead]
    cases keepOther other with
    | true => exact .cons hhead ih
    | false => exact .nil

theorem forall₂_dropWhile {keep : α → Bool} {keepOther : β → Bool}
    (h : List.Forall₂ related items others)
    (hkeep : ∀ item other, related item other → keep item = keepOther other) :
    List.Forall₂ related (items.dropWhile keep) (others.dropWhile keepOther) := by
  induction h with
  | nil => exact .nil
  | @cons item other items others hhead hrest ih =>
    rw [List.dropWhile_cons, List.dropWhile_cons, hkeep item other hhead]
    cases keepOther other with
    | true => exact ih
    | false => exact .cons hhead hrest

/-- Lists whose corresponding members are the same headings, or no headings, have corresponding
sections. -/
theorem forall₂_sections {heading : α → Option γ} {headingOther : β → Option δ}
    {title : γ → δ → Prop} (h : List.Forall₂ related items others)
    (hheading : ∀ item other, related item other →
      Option.Rel title (heading item) (headingOther other)) :
    List.Forall₂ (fun part found ↦ title part.1 found.1 ∧ List.Forall₂ related part.2 found.2)
      (sections heading items) (sections headingOther others) := by
  have hkeep (item : α) (other : β) (hrelated : related item other) :
      (heading item).isNone = (headingOther other).isNone := by
    have := hheading item other hrelated
    cases hitem : heading item <;> cases hother : headingOther other <;> simp_all
  induction h with
  | nil => exact .nil
  | @cons item other items others hhead hrest ih =>
    have htitle := hheading item other hhead
    cases hitem : heading item with
    | none =>
      cases hother : headingOther other with
      | none => simpa [sections, hitem, hother] using ih
      | some found => simp [hitem, hother] at htitle
    | some title =>
      cases hother : headingOther other with
      | none => simp [hitem, hother] at htitle
      | some found =>
        rw [hitem, hother, Option.rel_some_some] at htitle
        simp only [sections, hitem, hother]
        exact .cons ⟨htitle, forall₂_takeWhile hrest hkeep⟩ ih

end TrialSeries
