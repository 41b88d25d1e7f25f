import Mathlib.Data.List.Infix
import TrialSeries.Proofs.DirectoryWrites

/-!
# Directories that differ at one place

Two directories may agree at every place but one, at which neither has a folder. No path leads past
that place in either of them, so every path leads to the same places in both, and a file is read
alike unless its path leads to the place or through it. A path through it cannot be written at in
either directory; only the reason may differ.
-/

namespace TrialSeries.Directory

/-! ## Agreement -/

/-- Two directories agree at all places but one, which is no base place and a folder in neither. -/
structure AgreeExceptAt (place : Place) (left right : Directory) : Prop where
  isBase_eq : place.isBase = false
  entryAt_eq : ∀ other : Place, other.IsSlashFree → other ≠ place →
    left.entryAt other = right.entryAt other
  left_ne : left.entryAt place ≠ .folder
  right_ne : right.entryAt place ≠ .folder

namespace AgreeExceptAt

variable {place : Place} {left middle right : Directory}

theorem refl (hbase : place.isBase = false) (hne : left.entryAt place ≠ .folder) :
    AgreeExceptAt place left left :=
  ⟨hbase, fun _ _ _ ↦ rfl, hne, hne⟩

theorem symm (h : AgreeExceptAt place left right) : AgreeExceptAt place right left :=
  ⟨h.isBase_eq, fun other hslash hne ↦ (h.entryAt_eq other hslash hne).symm, h.right_ne, h.left_ne⟩

theorem trans (h : AgreeExceptAt place left middle) (h' : AgreeExceptAt place middle right) :
    AgreeExceptAt place left right :=
  ⟨h.isBase_eq, fun other hslash hne ↦
    (h.entryAt_eq other hslash hne).trans (h'.entryAt_eq other hslash hne), h.left_ne, h'.right_ne⟩

end AgreeExceptAt

/-- A change of the file at a place is seen nowhere else. -/
theorem agreeExceptAt_withContent {directory : Directory} {place : Place}
    (hslash : place.IsSlashFree) (hbase : place.isBase = false)
    (hne : directory.entryAt place ≠ .folder) (content : ByteArray) :
    AgreeExceptAt place directory (directory.withContent place content) where
  isBase_eq := hbase
  entryAt_eq other hother hplace := by
    have hkey : other.key ≠ place.key := by
      intro hkey
      rcases hother.eq_or_isBase_of_key_eq hslash hkey with hsame | ⟨-, hbase'⟩
      · exact hplace hsame
      · rw [hbase] at hbase'
        cases hbase'
    rw [entryAt, entryAt, get?_withContent, if_neg hkey]
    rfl
  left_ne := hne
  right_ne := by
    rw [entryAt_withContent_self]
    exact Entry.noConfusion

/-! ## Paths to and through a place -/

/-- A path leads through a place: some of its names before the last lead there. -/
def LeadsThrough (directory : Directory) (path : String) (place : Place) : Prop :=
  ∃ front ∈ (namesOf path).dropLast.inits, directory.follow path front = .ok place

/-- A path leads to a place or through it. -/
def Passes (directory : Directory) (path : String) (place : Place) : Prop :=
  directory.LeadsThrough path place ∨ directory.placeOf path = .ok place

instance (directory : Directory) (path : String) (place : Place) :
    Decidable (directory.LeadsThrough path place) :=
  inferInstanceAs (Decidable (∃ front ∈ _, _))

instance (directory : Directory) (path : String) (place : Place) :
    Decidable (directory.Passes path place) :=
  inferInstanceAs (Decidable (_ ∨ _))

section Paths

variable {place start goal : Place} {left right : Directory} {path name : String}
  {names : List String}

theorem startOf_ne (hbase : place.isBase = false) (path : String) : startOf path ≠ place := by
  rintro rfl
  unfold startOf at hbase
  split at hbase <;> cases hbase

/-- Steps from anywhere but the changed place are the same. -/
theorem AgreeExceptAt.step_eq (h : AgreeExceptAt place left right) (hstart : start.IsSlashFree)
    (hne : start ≠ place) (name : String) : left.step start name = right.step start name := by
  rw [step, step, h.entryAt_eq start hstart hne]

/-- From the changed place there are no steps. -/
theorem AgreeExceptAt.step_eq_ok (h : AgreeExceptAt place left right) (hstart : start.IsSlashFree)
    (hstep : left.step start name = .ok goal) : right.step start name = .ok goal := by
  have hne : start ≠ place := by
    rintro rfl
    exact h.left_ne (entryAt_of_step hstep)
  rw [← h.step_eq hstart hne, hstep]

theorem AgreeExceptAt.foldlM_eq_ok (h : AgreeExceptAt place left right)
    (hstart : start.IsSlashFree) (hnames : ∀ name ∈ names, '/' ∉ name.toList)
    (hgoal : names.foldlM left.step start = .ok goal) :
    names.foldlM right.step start = .ok goal := by
  induction names generalizing start with
  | nil => exact hgoal
  | cons name names ih =>
    rw [List.forall_mem_cons] at hnames
    rw [List.foldlM_cons, bind_eq_ok_iff] at hgoal ⊢
    obtain ⟨middle, hstep, hrest⟩ := hgoal
    exact ⟨middle, h.step_eq_ok hstart hstep,
      ih (isSlashFree_of_step hstart hnames.1 hstep) hnames.2 hrest⟩

/-- Names that do not lead through the changed place lead to the same place, or fail alike. -/
theorem AgreeExceptAt.foldlM_eq (h : AgreeExceptAt place left right) (hstart : start.IsSlashFree)
    (hnames : ∀ name ∈ names, '/' ∉ name.toList)
    (haround : ∀ front ∈ names.dropLast.inits, front.foldlM left.step start ≠ .ok place)
    (hne : start ≠ place) : names.foldlM left.step start = names.foldlM right.step start := by
  induction names generalizing start with
  | nil => rfl
  | cons name names ih =>
    rw [List.forall_mem_cons] at hnames
    rw [List.foldlM_cons, List.foldlM_cons, ← h.step_eq hstart hne]
    cases hstep : left.step start name with
    | error error => rfl
    | ok middle =>
      cases names with
      | nil => rfl
      | cons next names =>
        have hthrough : ∀ front ∈ (next :: names).dropLast.inits,
            front.foldlM left.step middle ≠ .ok place := by
          intro front hfront hplace
          rw [List.mem_inits] at hfront
          apply haround (name :: front)
          · rw [List.mem_inits]
            exact List.cons_prefix_cons.2 ⟨rfl, hfront⟩
          · rw [List.foldlM_cons, hstep]
            exact hplace
        have hmiddle : middle ≠ place := by
          rintro rfl
          exact hthrough [] ((List.mem_inits _ _).2 List.nil_prefix) rfl
        exact ih (isSlashFree_of_step hstart hnames.1 hstep) hnames.2 hthrough hmiddle

theorem AgreeExceptAt.follow_eq (h : AgreeExceptAt place left right)
    (hnames : ∀ name ∈ names, '/' ∉ name.toList)
    (haround : ∀ front ∈ names.dropLast.inits, left.follow path front ≠ .ok place) :
    left.follow path names = right.follow path names := by
  unfold follow at haround ⊢
  split_ifs at haround ⊢
  · rfl
  · rfl
  · rfl
  · exact h.foldlM_eq (isSlashFree_startOf path) hnames haround (startOf_ne h.isBase_eq path)

/-- Names lead to the same place in both directories. -/
theorem AgreeExceptAt.follow_eq_ok (h : AgreeExceptAt place left right)
    (hnames : ∀ name ∈ names, '/' ∉ name.toList) (hgoal : left.follow path names = .ok goal) :
    right.follow path names = .ok goal := by
  unfold follow at hgoal ⊢
  split_ifs at hgoal ⊢
  exact h.foldlM_eq_ok (isSlashFree_startOf path) hnames hgoal

theorem AgreeExceptAt.placeOf_eq_ok (h : AgreeExceptAt place left right)
    (hgoal : left.placeOf path = .ok goal) : right.placeOf path = .ok goal :=
  h.follow_eq_ok (fun _ ↦ notMem_of_mem_namesOf) hgoal

theorem AgreeExceptAt.leadsThrough (h : AgreeExceptAt place left right)
    (hleft : left.LeadsThrough path goal) : right.LeadsThrough path goal := by
  obtain ⟨front, hfront, hgoal⟩ := hleft
  refine ⟨front, hfront, h.follow_eq_ok (fun name hname ↦ ?_) hgoal⟩
  have hdropped := ((List.mem_inits _ _).1 hfront).subset hname
  exact notMem_of_mem_namesOf (List.dropLast_subset _ hdropped)

theorem AgreeExceptAt.placeOf_eq (h : AgreeExceptAt place left right)
    (hthrough : ¬ left.LeadsThrough path place) : left.placeOf path = right.placeOf path :=
  h.follow_eq (fun _ ↦ notMem_of_mem_namesOf) fun front hfront hplace ↦
    hthrough ⟨front, hfront, hplace⟩

theorem AgreeExceptAt.read_eq (h : AgreeExceptAt place left right)
    (hpasses : ¬ left.Passes path place) : left.read path = right.read path := by
  rw [Passes, not_or] at hpasses
  rw [read, read, ← h.placeOf_eq hpasses.1]
  cases hplace : left.placeOf path with
  | error error => rfl
  | ok goal =>
    have hne : goal ≠ place := by
      rintro rfl
      exact hpasses.2 hplace
    simp only [bind, Except.bind, h.entryAt_eq goal (isSlashFree_of_placeOf hplace) hne]

/-- What is read is the content of a file in UTF-8. -/
theorem file_of_read {directory : Directory} {text : String} (h : directory.read path = .ok text) :
    ∃ place content, directory.placeOf path = .ok place ∧
      directory.entryAt place = .file content ∧ String.fromUTF8? content = some text := by
  rw [read, bind_eq_ok_iff] at h
  obtain ⟨place, hplace, h⟩ := h
  cases hentry : directory.entryAt place with
  | folder => simp [hentry] at h
  | absent => simp [hentry] at h
  | file content =>
    simp only [hentry] at h
    split at h
    · cases h
    · split at h
      · rename_i found hfound
        cases h
        exact ⟨place, content, hplace, hentry, hfound⟩
      · cases h

/-! ## Writing at a path -/

theorem AgreeExceptAt.leadsToFile (h : AgreeExceptAt place left right)
    (hgoal : left.LeadsToFile path goal) : right.LeadsToFile path goal where
  asksForFolder_eq := hgoal.asksForFolder_eq
  placeOf_eq := h.placeOf_eq_ok hgoal.placeOf_eq
  entryAt_ne := by
    by_cases hne : goal = place
    · rw [hne]
      exact h.right_ne
    · rw [← h.entryAt_eq goal (isSlashFree_of_placeOf hgoal.placeOf_eq) hne]
      exact hgoal.entryAt_ne

theorem AgreeExceptAt.refuses (h : AgreeExceptAt place left right) (hleft : left.Refuses path) :
    right.Refuses path := by
  rcases right.leadsToFile_or_refuses path with ⟨goal, hgoal⟩ | hright
  · exact absurd hleft (h.symm.leadsToFile hgoal).not_refuses
  · exact hright

/-- A write is refused for the same reason, unless the path leads through the changed place. -/
theorem AgreeExceptAt.write_eq_error (h : AgreeExceptAt place left right)
    (hthrough : ¬ left.LeadsThrough path place) {text : String} {error : FileError}
    (herror : left.write path text = .error error) : right.write path text = .error error := by
  have hrefused (goal : Place) : ¬ left.LeadsToFile path goal := by
    intro hgoal
    cases (hgoal.write_eq text).symm.trans herror
  rw [← herror]
  unfold write
  split_ifs with hasks
  · have hnames : ∀ name ∈ (namesOf path).dropLast ++ ["."], '/' ∉ name.toList :=
      List.forall_mem_append.2 ⟨fun _ hname ↦ notMem_of_mem_namesOf (List.dropLast_subset _ hname),
        List.forall_mem_singleton.2 (by decide)⟩
    rw [h.follow_eq hnames]
    intro front hfront hplace
    rw [List.dropLast_concat] at hfront
    exact hthrough ⟨front, hfront, hplace⟩
  · rw [← h.placeOf_eq hthrough]
    cases hgoal : left.placeOf path with
    | error error' => rfl
    | ok goal =>
      -- Only a folder refuses a file, and the folders are the same.
      have hfolder : left.entryAt goal = .folder := by
        by_contra hne
        exact hrefused goal ⟨Bool.eq_false_of_not_eq_true hasks, hgoal, hne⟩
      have hne : goal ≠ place := by
        rintro rfl
        exact h.left_ne hfolder
      have hsame := h.entryAt_eq goal (isSlashFree_of_placeOf hgoal) hne
      simp only [bind, Except.bind, ← hsame, hfolder]

end Paths

end TrialSeries.Directory
