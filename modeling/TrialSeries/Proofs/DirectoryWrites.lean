import Mathlib.Data.List.Basic
import TrialSeries.Environment
import TrialSeries.Proofs.FirstBad
import TrialSeries.Proofs.MapLookup
import TrialSeries.Proofs.TextLines

/-!
# Writing into a directory

Whether a file can be written at a path depends on the path alone, not on the text. A write that
succeeds makes the text the content of the one file that the path leads to; every other file and all
folders stay as they are, so the path still leads there, and the text is what is read at it.
-/

namespace TrialSeries.Directory

/-! ## One changed file -/

/-- The directory with a text as the content of the file at a place. -/
def withFile (directory : Directory) (place : Place) (text : String) : Directory :=
  { directory with files := directory.files.insert place.key text.toUTF8 }

/-- The directory with some content, which need not be text, of the file at a place. -/
def withContent (directory : Directory) (place : Place) (content : ByteArray) : Directory :=
  { directory with files := directory.files.insert place.key content }

theorem get?_withContent (directory : Directory) (place : Place) (content : ByteArray)
    (key : String) : (directory.withContent place content).files.get? key =
      if key = place.key then some content else directory.files.get? key :=
  SortedMap.get?_alter directory.files place.key key fun _ ↦ content

@[simp] theorem entryAt_withContent_self (directory : Directory) (place : Place)
    (content : ByteArray) :
    (directory.withContent place content).entryAt place = .file content := by
  simp [entryAt, get?_withContent]

@[simp] theorem folders_withFile (directory : Directory) (place : Place) (text : String) :
    (directory.withFile place text).folders = directory.folders := rfl

theorem get?_withFile (directory : Directory) (place : Place) (text key : String) :
    (directory.withFile place text).files.get? key =
      if key = place.key then some text.toUTF8 else directory.files.get? key :=
  get?_withContent directory place text.toUTF8 key

@[simp] theorem entryAt_withFile_self (directory : Directory) (place : Place) (text : String) :
    (directory.withFile place text).entryAt place = .file text.toUTF8 :=
  entryAt_withContent_self directory place text.toUTF8

/-! ## Places that paths lead to

Two places may share a key only if both are above or at the directory, where there are folders. So a
file at one place is never taken for a folder at another.
-/

/-- No name on the way to a place has a slash in it, as no name in a path has one. -/
def Place.IsSlashFree (place : Place) : Prop := ∀ name ∈ place, '/' ∉ name.toList

namespace Place.IsSlashFree

variable {place left right : Place}

theorem singleton {name : String} (hname : '/' ∉ name.toList) : Place.IsSlashFree [name] := by
  intro other hother
  rwa [List.mem_singleton.1 hother]

theorem append_singleton (h : place.IsSlashFree) {name : String} (hname : '/' ∉ name.toList) :
    Place.IsSlashFree (place ++ [name]) :=
  List.forall_mem_append.2 ⟨h, singleton hname⟩

theorem parent (h : place.IsSlashFree) : place.parent.IsSlashFree := by
  unfold Place.parent
  split
  · exact singleton (by decide)
  · exact h.append_singleton (by decide)
  · exact h
  · exact fun name hname ↦ h name (List.dropLast_subset place hname)

/-- The names on the way to a place can be read off its key, except that nothing is a name there. -/
theorem splitOn_key (h : place.IsSlashFree) (hne : place ≠ []) :
    Text.splitOn '/' place.key.toList = place.map String.toList := by
  rw [Place.key, String.toList_intercalate]
  apply Text.splitOn_intercalate
  · simpa using hne
  · exact List.forall_mem_map.2 h

theorem isBase_of_key_eq_empty (h : place.IsSlashFree) (hkey : place.key = "") :
    place.isBase = true := by
  by_cases hne : place = []
  · rw [hne]
    rfl
  · have hnames := h.splitOn_key hne
    rw [hkey] at hnames
    obtain ⟨name, rfl, hname⟩ := List.map_eq_singleton_iff.1 hnames.symm
    simp [Place.isBase, String.toList_eq_nil_iff.1 hname]

/-- Two places with one key are the same place, unless both are base places. -/
theorem eq_or_isBase_of_key_eq (hleft : left.IsSlashFree) (hright : right.IsSlashFree)
    (hkey : left.key = right.key) :
    left = right ∨ left.isBase = true ∧ right.isBase = true := by
  by_cases hempty : left.key = ""
  · exact .inr ⟨hleft.isBase_of_key_eq_empty hempty,
      hright.isBase_of_key_eq_empty (hkey ▸ hempty)⟩
  · have hleftNe : left ≠ [] := fun h ↦ hempty (by rw [h]; rfl)
    have hrightNe : right ≠ [] := fun h ↦ hempty (by rw [hkey, h]; rfl)
    have hnames : left.map String.toList = right.map String.toList :=
      calc
        left.map String.toList = Text.splitOn '/' left.key.toList :=
          (hleft.splitOn_key hleftNe).symm
        _ = Text.splitOn '/' right.key.toList := by rw [hkey]
        _ = right.map String.toList := hright.splitOn_key hrightNe
    exact .inl (List.map_injective_iff.2 (fun _ _ ↦ String.toList_injective) hnames)

end Place.IsSlashFree

variable {directory : Directory} {path : String} {place : Place}

theorem isFolder_of_isBase (hbase : place.isBase = true)
    (habsent : directory.files.get? place.key = none) : directory.entryAt place = .folder := by
  simp [entryAt, habsent, hbase]

theorem get?_eq_none_of_entryAt (h : directory.entryAt place = .folder) :
    directory.files.get? place.key = none := by
  unfold entryAt at h
  split at h
  · cases h
  · assumption

/-- Writing a file leaves every folder one. -/
theorem entryAt_withFile_of_folder {folder : Place} (hplace : place.IsSlashFree)
    (hslash : folder.IsSlashFree) (hne : directory.entryAt place ≠ .folder)
    (hfolder : directory.entryAt folder = .folder) (text : String) :
    (directory.withFile place text).entryAt folder = .folder := by
  have habsent := get?_eq_none_of_entryAt hfolder
  have hkey : folder.key ≠ place.key := by
    intro hkey
    rcases hplace.eq_or_isBase_of_key_eq hslash hkey.symm with rfl | ⟨hbase, -⟩
    · exact hne hfolder
    · exact hne (isFolder_of_isBase hbase (hkey ▸ habsent))
  simpa [entryAt, get?_withFile, hkey] using hfolder

/-! ## Following paths after a write -/

theorem isSlashFree_startOf (path : String) : (startOf path).IsSlashFree := by
  unfold startOf
  split
  · exact Place.IsSlashFree.singleton (by decide)
  · exact List.forall_mem_nil _

theorem notMem_of_mem_namesOf {name : String} (h : name ∈ namesOf path) :
    '/' ∉ name.toList := by
  obtain ⟨chars, hchars, rfl⟩ := List.mem_map.1 h
  rw [String.toList_ofList]
  exact Text.notMem_of_mem_splitOn (List.mem_filter.1 hchars).1

section Steps

variable {start goal : Place} {name : String} {names : List String}

theorem entryAt_of_step (h : directory.step start name = .ok goal) :
    directory.entryAt start = .folder := by
  unfold step at h
  split at h
  · cases h
  · cases h
  · assumption

theorem isSlashFree_of_step (hstart : start.IsSlashFree) (hname : '/' ∉ name.toList)
    (h : directory.step start name = .ok goal) : goal.IsSlashFree := by
  simp only [step, entryAt_of_step h] at h
  split_ifs at h <;> cases h
  · exact hstart
  · exact hstart.parent
  · exact hstart.append_singleton hname

theorem isSlashFree_of_foldlM (hstart : start.IsSlashFree)
    (hnames : ∀ name ∈ names, '/' ∉ name.toList)
    (h : names.foldlM directory.step start = .ok goal) : goal.IsSlashFree := by
  induction names generalizing start with
  | nil =>
    cases h
    exact hstart
  | cons name names ih =>
    rw [List.forall_mem_cons] at hnames
    rw [List.foldlM_cons, bind_eq_ok_iff] at h
    obtain ⟨middle, hstep, hrest⟩ := h
    exact ih (isSlashFree_of_step hstart hnames.1 hstep) hnames.2 hrest

/-- The folders on the way are still there after a write, so names lead to the same place. -/
theorem foldlM_step_withFile (hplace : place.IsSlashFree)
    (hne : directory.entryAt place ≠ .folder) (hstart : start.IsSlashFree)
    (hnames : ∀ name ∈ names, '/' ∉ name.toList)
    (h : names.foldlM directory.step start = .ok goal) (text : String) :
    names.foldlM (directory.withFile place text).step start = .ok goal := by
  induction names generalizing start with
  | nil => exact h
  | cons name names ih =>
    rw [List.forall_mem_cons] at hnames
    rw [List.foldlM_cons, bind_eq_ok_iff] at h ⊢
    obtain ⟨middle, hstep, hrest⟩ := h
    have hfolder := entryAt_of_step hstep
    have hafter := entryAt_withFile_of_folder hplace hstart hne hfolder text
    have hsame : (directory.withFile place text).step start name = .ok middle := by
      rw [← hstep, step, step, hafter, hfolder]
    exact ⟨middle, hsame, ih (isSlashFree_of_step hstart hnames.1 hstep) hnames.2 hrest⟩

end Steps

theorem isSlashFree_of_placeOf (h : directory.placeOf path = .ok place) : place.IsSlashFree := by
  simp only [placeOf, follow] at h
  split_ifs at h
  exact isSlashFree_of_foldlM (isSlashFree_startOf path) (fun _ ↦ notMem_of_mem_namesOf) h

/-- A path leads to the same place after a write. -/
theorem placeOf_withFile {other : String} {goal : Place}
    (hplace : directory.placeOf path = .ok place) (hne : directory.entryAt place ≠ .folder)
    (hgoal : directory.placeOf other = .ok goal) (text : String) :
    (directory.withFile place text).placeOf other = .ok goal := by
  have hslash := isSlashFree_of_placeOf hplace
  simp only [placeOf, follow] at hgoal ⊢
  split_ifs at hgoal ⊢
  exact foldlM_step_withFile hslash hne (isSlashFree_startOf other)
    (fun _ ↦ notMem_of_mem_namesOf) hgoal text

/-! ## Reading and writing at a path -/

theorem exists_read_eq_error (h : directory.isPresent path = false) :
    ∃ error, directory.read path = .error error := by
  simp only [isPresent, read] at h ⊢
  split at h
  · rename_i error hplace
    exact ⟨error, by rw [hplace]; rfl⟩
  · rename_i place hplace
    rw [hplace]
    split at h
    · rename_i hentry
      exact ⟨.notFound, by simp [bind, Except.bind, hentry]⟩
    · cases h
    · rename_i content hentry
      have hasks : asksForFolder path = true := by simpa using h
      exact ⟨.notFolder, by simp [bind, Except.bind, hentry, hasks]⟩

/-- A path leads to a place at which a file can be written. -/
structure LeadsToFile (directory : Directory) (path : String) (place : Place) : Prop where
  asksForFolder_eq : asksForFolder path = false
  placeOf_eq : directory.placeOf path = .ok place
  entryAt_ne : directory.entryAt place ≠ .folder

/-- No file can be written at a path, whatever its text. -/
def Refuses (directory : Directory) (path : String) : Prop :=
  ∃ error, ∀ text, directory.write path text = .error error

theorem LeadsToFile.write_eq (h : directory.LeadsToFile path place) (text : String) :
    directory.write path text = .ok (directory.withFile place text) := by
  have hne := h.entryAt_ne
  unfold write
  rw [if_neg (by rw [h.asksForFolder_eq]; decide), h.placeOf_eq]
  cases hentry : directory.entryAt place with
  | folder => exact absurd hentry hne
  | file content => simp [bind, Except.bind, hentry, withFile]
  | absent => simp [bind, Except.bind, hentry, withFile]

theorem LeadsToFile.not_refuses (h : directory.LeadsToFile path place) :
    ¬ directory.Refuses path := by
  intro hrefuses
  obtain ⟨error, herror⟩ := hrefuses
  cases (h.write_eq "").symm.trans (herror "")

theorem leadsToFile_or_refuses (directory : Directory) (path : String) :
    (∃ place, directory.LeadsToFile path place) ∨ directory.Refuses path := by
  unfold Refuses write
  cases hasks : asksForFolder path with
  | true =>
    cases directory.follow path ((namesOf path).dropLast ++ ["."]) with
    | error error => exact .inr ⟨error, fun _ ↦ rfl⟩
    | ok folder => exact .inr ⟨.isFolder, fun _ ↦ rfl⟩
  | false =>
    cases hplace : directory.placeOf path with
    | error error => exact .inr ⟨error, fun _ ↦ rfl⟩
    | ok place =>
      by_cases hentry : directory.entryAt place = .folder
      · exact .inr ⟨.isFolder, fun _ ↦ by simp [bind, Except.bind, hentry]⟩
      · exact .inl ⟨place, hasks, hplace, hentry⟩

/-- Where nothing is present, a write makes a new file. -/
theorem LeadsToFile.get?_eq_none (h : directory.LeadsToFile path place)
    (habsent : directory.isPresent path = false) : directory.files.get? place.key = none := by
  by_contra hsome
  obtain ⟨content, hcontent⟩ := Option.ne_none_iff_exists'.1 hsome
  simp [isPresent, h.placeOf_eq, entryAt, hcontent, h.asksForFolder_eq] at habsent

theorem fromUTF8?_toByteArray (text : String) : String.fromUTF8? text.toByteArray = some text :=
  dif_pos text.isValidUTF8

/-- What is written at a path is read at it. -/
theorem LeadsToFile.read_withFile (h : directory.LeadsToFile path place) (text : String) :
    (directory.withFile place text).read path = .ok text := by
  have hplace := placeOf_withFile h.placeOf_eq h.entryAt_ne h.placeOf_eq text
  simp [read, hplace, bind, Except.bind, h.asksForFolder_eq, fromUTF8?_toByteArray]

end TrialSeries.Directory
