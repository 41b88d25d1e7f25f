import Mathlib.Data.List.Forall2

/-!
# The first bad member of a list

A list without a bad member is read in full, member by member; in every other list exactly one
member is the first bad one, and nothing that follows it plays a part.
-/

namespace TrialSeries

variable {α β ε : Type}

/-- A member stands at a place of a list and is bad, and no member before it is. -/
def IsFirst (bad : α → Prop) (items : List α) (place : Nat) (item : α) : Prop :=
  items[place]? = some item ∧ bad item ∧
    ∀ earlier < place, ∀ other, items[earlier]? = some other → ¬ bad other

theorem IsFirst.mem {bad : α → Prop} {items : List α} {place : Nat} {item : α}
    (h : IsFirst bad items place item) : item ∈ items :=
  List.mem_of_getElem? h.1

theorem isFirst_cons_zero {bad : α → Prop} {head item : α} {rest : List α} :
    IsFirst bad (head :: rest) 0 item ↔ item = head ∧ bad head := by
  simp only [IsFirst, List.getElem?_cons_zero, Option.some.injEq]
  constructor
  · intro hfirst
    rcases hfirst with ⟨rfl, hbad, -⟩
    exact ⟨rfl, hbad⟩
  · intro hhead
    rcases hhead with ⟨rfl, hbad⟩
    exact ⟨rfl, hbad, by simp⟩

theorem isFirst_cons_succ {bad : α → Prop} {head item : α} {rest : List α} {place : Nat} :
    IsFirst bad (head :: rest) (place + 1) item ↔ ¬ bad head ∧ IsFirst bad rest place item := by
  simp only [IsFirst, List.getElem?_cons_succ]
  constructor
  · intro hfirst
    rcases hfirst with ⟨hitem, hbad, hbefore⟩
    have hhead : ¬ bad head := hbefore 0 (by omega) head rfl
    refine ⟨hhead, hitem, hbad, ?_⟩
    intro earlier hlt other hother
    exact hbefore (earlier + 1) (by omega) other hother
  · intro h
    rcases h with ⟨hhead, hitem, hbad, hbefore⟩
    refine ⟨hitem, hbad, ?_⟩
    intro earlier hlt other hother
    cases earlier with
    | zero =>
      obtain rfl : head = other := by simpa using hother
      exact hhead
    | succ earlier => exact hbefore earlier (by omega) other hother

/-- The first bad member is the head, or else the first bad member of the rest. -/
theorem exists_isFirst_cons {bad : α → Prop} {head : α} {rest : List α} {goal : Nat → α → Prop} :
    (∃ place item, IsFirst bad (head :: rest) place item ∧ goal place item) ↔
      (bad head ∧ goal 0 head) ∨
        (¬ bad head ∧ ∃ place item, IsFirst bad rest place item ∧ goal (place + 1) item) := by
  constructor
  · intro h
    rcases h with ⟨place, item, hfirst, hgoal⟩
    cases place with
    | zero =>
      obtain ⟨rfl, hbad⟩ := isFirst_cons_zero.1 hfirst
      exact .inl ⟨hbad, hgoal⟩
    | succ place =>
      obtain ⟨hhead, hfirst⟩ := isFirst_cons_succ.1 hfirst
      exact .inr ⟨hhead, place, item, hfirst, hgoal⟩
  · intro h
    rcases h with ⟨hbad, hgoal⟩ | ⟨hhead, place, item, hfirst, hgoal⟩
    · exact ⟨0, head, isFirst_cons_zero.2 ⟨rfl, hbad⟩, hgoal⟩
    · exact ⟨place + 1, item, isFirst_cons_succ.2 ⟨hhead, hfirst⟩, hgoal⟩

/-- Some member is the first bad one exactly if some member is bad. -/
theorem exists_isFirst_iff {bad : α → Prop} {items : List α} :
    (∃ place item, IsFirst bad items place item) ↔ ∃ item ∈ items, bad item := by
  induction items with
  | nil => simp [IsFirst]
  | cons head rest ih =>
    have h := @exists_isFirst_cons α bad head rest fun _ _ ↦ True
    simp only [and_true, ih] at h
    rw [h, List.exists_mem_cons_iff]
    by_cases hhead : bad head <;> simp [hhead]

theorem isFirst_congr {bad other : α → Prop} {items : List α} {place : Nat} {item : α}
    (h : ∀ item ∈ items, bad item ↔ other item) :
    IsFirst bad items place item ↔ IsFirst other items place item := by
  have hplaced {place : Nat} {item : α} (hitem : items[place]? = some item) :
      bad item ↔ other item := h item (List.mem_of_getElem? hitem)
  constructor
  · intro hfirst
    rcases hfirst with ⟨hitem, hbad, hbefore⟩
    refine ⟨hitem, (hplaced hitem).1 hbad, ?_⟩
    intro earlier hlt found hfound hother
    exact hbefore earlier hlt found hfound ((hplaced hfound).2 hother)
  · intro hfirst
    rcases hfirst with ⟨hitem, hother, hbefore⟩
    refine ⟨hitem, (hplaced hitem).2 hother, ?_⟩
    intro earlier hlt found hfound hbad
    exact hbefore earlier hlt found hfound ((hplaced hfound).1 hbad)

/-- The first bad member is found by what is looked at in each member. -/
theorem isFirst_map {f : α → β} {bad : β → Prop} {items : List α} {place : Nat} {item : α}
    (h : items[place]? = some item) :
    IsFirst bad (items.map f) place (f item) ↔ IsFirst (fun item ↦ bad (f item)) items place item := by
  simp [IsFirst, h]

/-- Lists that agree up to the first bad member have the same first bad member. -/
theorem IsFirst.of_take_eq {bad : α → Prop} {items others : List α} {place : Nat} {item : α}
    (h : IsFirst bad items place item) (htake : others.take (place + 1) = items.take (place + 1)) :
    IsFirst bad others place item := by
  have hsame (earlier : Nat) (hlt : earlier < place + 1) : others[earlier]? = items[earlier]? := by
    rw [← List.getElem?_take_of_lt hlt, htake, List.getElem?_take_of_lt hlt]
  obtain ⟨hitem, hbad, hbefore⟩ := h
  have hplace : others[place]? = some item := by
    rw [hsame place (by omega), hitem]
  refine ⟨hplace, hbad, ?_⟩
  intro earlier hlt other hother
  rw [hsame earlier (by omega)] at hother
  exact hbefore earlier hlt other hother

/-! ## Reading member by member -/

@[simp] theorem map_eq_error_iff {f : α → β} {result : Except ε α} {error : ε} :
    result.map f = .error error ↔ result = .error error := by
  cases result <;> simp [Except.map]

@[simp] theorem map_eq_ok_iff {f : α → β} {result : Except ε α} {value : β} :
    result.map f = .ok value ↔ ∃ found, result = .ok found ∧ f found = value := by
  cases result <;> simp [Except.map]

theorem bind_eq_error_iff {result : Except ε α} {next : α → Except ε β} {error : ε} :
    result >>= next = .error error ↔
      result = .error error ∨ ∃ value, result = .ok value ∧ next value = .error error := by
  cases result <;> simp [bind, Except.bind]

theorem bind_eq_ok_iff {result : Except ε α} {next : α → Except ε β} {found : β} :
    result >>= next = .ok found ↔ ∃ value, result = .ok value ∧ next value = .ok found := by
  cases result <;> simp [bind, Except.bind]

theorem mapM_eq_ok_iff {read : α → Except ε β} {items : List α} {values : List β} :
    items.mapM read = .ok values ↔
      List.Forall₂ (fun item value ↦ read item = .ok value) items values := by
  induction items generalizing values with
  | nil => cases values <;> simp [pure, Except.pure]
  | cons head rest ih =>
    rw [List.mapM_cons, List.forall₂_cons_left_iff]
    cases hhead : read head with
    | error error => simp [bind, Except.bind]
    | ok value =>
      cases hrest : rest.mapM read with
      | error error => simp [bind, Except.bind, ← ih, hrest]
      | ok found => simp [bind, Except.bind, pure, Except.pure, ← ih, hrest, eq_comm]

theorem map_eq_of_mapM_eq_ok {read : α → Except ε β} {items : List α} {values : List β}
    {f : α → β} (h : items.mapM read = .ok values)
    (hread : ∀ item value, read item = .ok value → f item = value) : items.map f = values := by
  have hvalues := (mapM_eq_ok_iff.1 h).imp hread
  rwa [← List.forall₂_map_left_iff, List.forall₂_eq_eq_eq] at hvalues

theorem mapM_eq_error_iff {read : α → Except ε β} {items : List α} {error : ε} :
    items.mapM read = .error error ↔
      ∃ place item, IsFirst (fun item ↦ ∃ error, read item = .error error) items place item ∧
        read item = .error error := by
  induction items with
  | nil => simp [IsFirst, pure, Except.pure]
  | cons head rest ih =>
    rw [List.mapM_cons, exists_isFirst_cons]
    cases hhead : read head with
    | error found => simp [bind, Except.bind]
    | ok value =>
      cases hrest : rest.mapM read with
      | error found => simp [bind, Except.bind, ← ih, hrest]
      | ok found => simp [bind, Except.bind, pure, Except.pure, ← ih, hrest]

/-- Reporting errors in another way changes the report of the whole reading in that way. -/
theorem mapM_mapError {δ : Type} (read : α → Except ε β) (report : ε → δ) (items : List α) :
    (items.mapM fun item ↦ (read item).mapError report) = (items.mapM read).mapError report := by
  induction items with
  | nil => rfl
  | cons head rest ih =>
    rw [List.mapM_cons, List.mapM_cons, ih]
    cases read head with
    | error error => rfl
    | ok value => cases rest.mapM read <;> rfl

end TrialSeries
