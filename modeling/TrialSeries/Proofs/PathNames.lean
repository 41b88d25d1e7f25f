import Mathlib.Logic.Relation
import TrialSeries.Proofs.TextPieces
import TrialSeries.RunFile

/-!
# The names in a path

A path has one list of components: what each of its pieces between slashes stands for. The run is
named by the last component and the trial by the one before it, as far as these are names. So
`directory/trial/run` names both whatever the directory, and spelling a path with further slashes or
single dots changes neither of them.
-/

namespace TrialSeries

namespace Path

/-! ## Components -/

structure IsName (name : String) : Prop where
  slash_notMem : '/' ∉ name.toList
  ne_empty : name ≠ ""
  ne_current : name ≠ "."
  ne_parent : name ≠ ".."

/-- What the first piece of a path stands for. -/
inductive Opens : String → Component → Prop where
  | current : Opens "." .current
  | parent : Opens ".." .parent
  | normal {name : String} (h : IsName name) : Opens name (.normal name)

/-- What a piece behind a slash stands for. Nothing and a single dot leave a path where it was. -/
inductive Adds : String → List Component → Prop where
  | empty : Adds "" []
  | current : Adds "." []
  | parent : Adds ".." [.parent]
  | normal {name : String} (h : IsName name) : Adds name [.normal name]

/-- The components of a text behind a slash. -/
inductive Continues : String → List Component → Prop where
  | last {piece : String} {added : List Component} (h : Adds piece added) : Continues piece added
  | slash {piece rest : String} {added others : List Component} (h : Adds piece added)
      (hrest : Continues rest others) : Continues (piece ++ "/" ++ rest) (added ++ others)

inductive HasComponents : String → List Component → Prop where
  | empty : HasComponents "" []
  | absolute {rest : String} {others : List Component} (hrest : Continues rest others) :
      HasComponents ("/" ++ rest) (.root :: others)
  | single {piece : String} {first : Component} (h : Opens piece first) :
      HasComponents piece [first]
  | relative {piece rest : String} {first : Component} {others : List Component}
      (h : Opens piece first) (hrest : Continues rest others) :
      HasComponents (piece ++ "/" ++ rest) (first :: others)

/-! ## Pieces -/

theorem Opens.ne_empty {piece : String} {first : Component} (h : Opens piece first) :
    piece ≠ "" := by
  cases h with
  | current => decide
  | parent => decide
  | normal hname => exact hname.ne_empty

theorem Adds.slash_notMem {piece : String} {added : List Component} (h : Adds piece added) :
    '/' ∉ piece.toList := by
  cases h with
  | empty => decide
  | current => decide
  | parent => decide
  | normal hname => exact hname.slash_notMem

theorem exists_opens {piece : String} (hne : piece ≠ "") (h : '/' ∉ piece.toList) :
    ∃ first, Opens piece first := by
  by_cases hcurrent : piece = "."
  · exact ⟨.current, hcurrent ▸ .current⟩
  · by_cases hparent : piece = ".."
    · exact ⟨.parent, hparent ▸ .parent⟩
    · exact ⟨.normal piece, .normal ⟨h, hne, hcurrent, hparent⟩⟩

theorem exists_adds {piece : String} (h : '/' ∉ piece.toList) : ∃ added, Adds piece added := by
  by_cases hempty : piece = ""
  · exact ⟨[], hempty ▸ .empty⟩
  · obtain ⟨first, hfirst⟩ := exists_opens hempty h
    cases hfirst with
    | current => exact ⟨[], .current⟩
    | parent => exact ⟨[.parent], .parent⟩
    | normal hname => exact ⟨[.normal piece], .normal hname⟩

theorem component?_of_isName {name : String} (h : IsName name) :
    component? name.toList = some (.normal name) := by
  unfold component?
  split
  · rename_i hempty
    exact absurd (String.toList_inj.1 hempty) h.ne_empty
  · rename_i hcurrent
    exact absurd (String.toList_inj.1 hcurrent) h.ne_current
  · rename_i hparent
    exact absurd (String.toList_inj.1 hparent) h.ne_parent
  · rw [String.ofList_toList]

/-- A text is cut at its first slash if it has one. -/
theorem exists_first_piece (text : String) : '/' ∉ text.toList ∨
    ∃ piece rest : String, '/' ∉ piece.toList ∧ text = piece ++ "/" ++ rest := by
  cases hcut : Text.cutAt '/' text.toList with
  | none => exact .inl (Text.cutAt_eq_none_iff.1 hcut)
  | some cut =>
    obtain ⟨before, after⟩ := cut
    obtain ⟨htext, hbefore⟩ := Text.eq_append_of_cutAt hcut
    refine .inr ⟨String.ofList before, String.ofList after, ?_, ?_⟩
    · rwa [String.toList_ofList]
    · rw [← String.toList_inj, htext]
      simp

/-! ## What stands behind a slash -/

/-- The components that a text adds behind a slash. -/
def componentsBehind (text : String) : List Component :=
  (Text.splitOn '/' text.toList).filterMap component?

theorem componentsBehind_of_slash_notMem {piece : String} (h : '/' ∉ piece.toList) :
    componentsBehind piece = (component? piece.toList).toList := by
  rw [componentsBehind, Text.splitOn_of_notMem h]
  cases hpiece : component? piece.toList with
  | none => exact List.filterMap_cons_none hpiece
  | some component => exact List.filterMap_cons_some hpiece

theorem Adds.componentsBehind_eq {piece : String} {added : List Component}
    (h : Adds piece added) : componentsBehind piece = added := by
  rw [componentsBehind_of_slash_notMem h.slash_notMem]
  cases h with
  | empty => rfl
  | current => rfl
  | parent => rfl
  | normal hname => rw [component?_of_isName hname, Option.toList_some]

theorem componentsBehind_append (before after : String) :
    componentsBehind (before ++ "/" ++ after) =
      componentsBehind before ++ componentsBehind after := by
  simp [componentsBehind, Text.splitOn_append, List.filterMap_append]

theorem Continues.componentsBehind_eq {text : String} {parts : List Component}
    (h : Continues text parts) : componentsBehind text = parts := by
  induction h with
  | last hpiece => exact hpiece.componentsBehind_eq
  | slash hpiece _ ih => rw [componentsBehind_append, hpiece.componentsBehind_eq, ih]

theorem exists_continues (text : String) : ∃ parts, Continues text parts := by
  rcases exists_first_piece text with htext | ⟨piece, rest, hpiece, htext⟩
  · obtain ⟨added, hadded⟩ := exists_adds htext
    exact ⟨added, .last hadded⟩
  · obtain ⟨added, hadded⟩ := exists_adds hpiece
    obtain ⟨others, hothers⟩ := exists_continues rest
    exact ⟨added ++ others, htext ▸ .slash hadded hothers⟩
termination_by text.length
decreasing_by
  rw [htext, String.length_append, String.length_append]
  exact Nat.lt_add_of_pos_left (Nat.add_pos_right _ (by decide))

/-! ## The components of a path -/

/-- The component that a path has for the way it starts. -/
def opening (path : String) : List Component :=
  if path.toList.head? = some '/' then [.root]
  else if (Text.splitOn '/' path.toList).head? = some ['.'] then [.current] else []

theorem components_eq_append (path : String) :
    components path = opening path ++ componentsBehind path := by
  unfold components opening componentsBehind
  cases hpath : path.toList with
  | nil => rfl
  | cons char rest =>
    by_cases hchar : char = '/'
    · simp [hchar]
    · simp [hchar]

/-- A path starts as what stands before one of its slashes, unless nothing stands there. -/
theorem opening_append {before : String} (h : before ≠ "") (after : String) :
    opening (before ++ "/" ++ after) = opening before := by
  have hne : before.toList ≠ [] := mt String.toList_eq_nil_iff.1 h
  have hpath : (before ++ "/" ++ after).toList = before.toList ++ '/' :: after.toList := by simp
  rw [opening, hpath, Text.splitOn_append, List.head?_append_of_ne_nil _ hne,
    List.head?_append_of_ne_nil _ (Text.splitOn_ne_nil _ _), opening]

theorem opening_of_isName {name : String} (h : IsName name) : opening name = [] := by
  have hroot : name.toList.head? ≠ some '/' := fun hhead ↦ h.slash_notMem (List.mem_of_head? hhead)
  have hcurrent : some name.toList ≠ some ['.'] := by
    rw [ne_eq, Option.some_inj]
    exact fun hname ↦ h.ne_current (String.toList_inj.1 hname)
  rw [opening, if_neg hroot, Text.splitOn_of_notMem h.slash_notMem, List.head?_cons,
    if_neg hcurrent]

theorem components_absolute (rest : String) :
    components ("/" ++ rest) = .root :: componentsBehind rest := by
  have hopening : opening ("/" ++ rest) = [.root] := by simp [opening]
  have hbehind : componentsBehind ("/" ++ rest) = componentsBehind rest :=
    componentsBehind_append "" rest
  rw [components_eq_append, hopening, hbehind, List.singleton_append]

/-- What stands before a slash is a path in its own right, unless nothing stands there. -/
theorem components_append {before : String} (h : before ≠ "") (after : String) :
    components (before ++ "/" ++ after) = components before ++ componentsBehind after := by
  rw [components_eq_append, components_eq_append, opening_append h, componentsBehind_append,
    List.append_assoc]

/-- What is put behind a slash counts only for the components that it adds there. -/
theorem exists_components_append (before : String) : ∃ front, ∀ after,
    components (before ++ "/" ++ after) = front ++ componentsBehind after := by
  by_cases h : before = ""
  · exact ⟨[.root], fun after ↦ h ▸ components_absolute after⟩
  · exact ⟨components before, components_append h⟩

theorem Opens.components_eq {piece : String} {first : Component} (h : Opens piece first) :
    components piece = [first] := by
  cases h with
  | current => decide
  | parent => decide
  | normal hname =>
    rw [components_eq_append, opening_of_isName hname, (Adds.normal hname).componentsBehind_eq,
      List.nil_append]

theorem HasComponents.components_eq {path : String} {parts : List Component}
    (h : HasComponents path parts) : components path = parts := by
  cases h with
  | empty => rfl
  | absolute hrest => rw [components_absolute, hrest.componentsBehind_eq]
  | single hfirst => exact hfirst.components_eq
  | relative hfirst hrest =>
    rw [components_append hfirst.ne_empty, hfirst.components_eq, hrest.componentsBehind_eq,
      List.singleton_append]

theorem exists_hasComponents (path : String) : ∃ parts, HasComponents path parts := by
  rcases exists_first_piece path with hpath | ⟨piece, rest, hpiece, rfl⟩
  · by_cases hempty : path = ""
    · exact ⟨[], hempty ▸ .empty⟩
    · obtain ⟨first, hfirst⟩ := exists_opens hempty hpath
      exact ⟨[first], .single hfirst⟩
  · obtain ⟨others, hothers⟩ := exists_continues rest
    by_cases hempty : piece = ""
    · exact ⟨.root :: others, hempty ▸ .absolute hothers⟩
    · obtain ⟨first, hfirst⟩ := exists_opens hempty hpiece
      exact ⟨first :: others, .relative hfirst hothers⟩

theorem hasComponents_iff {path : String} {parts : List Component} :
    HasComponents path parts ↔ components path = parts := by
  constructor
  · exact HasComponents.components_eq
  · rintro rfl
    obtain ⟨parts, hparts⟩ := exists_hasComponents path
    rwa [hparts.components_eq]

/-! ## Other spellings -/

/-- One slash or one dot more, at a place where it does not count. -/
inductive Respelling : String → String → Prop where
  | slash (before after : String) : Respelling (before ++ "/" ++ after) (before ++ "//" ++ after)
  | dot (before after : String) : Respelling (before ++ "/" ++ after) (before ++ "/./" ++ after)
  | lastSlash {path : String} (h : path ≠ "") : Respelling path (path ++ "/")
  | lastDot {path : String} (h : path ≠ "") : Respelling path (path ++ "/.")

theorem components_append_congr {after other : String}
    (h : componentsBehind after = componentsBehind other) (before : String) :
    components (before ++ "/" ++ after) = components (before ++ "/" ++ other) := by
  obtain ⟨front, hfront⟩ := exists_components_append before
  rw [hfront, hfront, h]

theorem Respelling.components_eq {path other : String} (h : Respelling path other) :
    components other = components path := by
  cases h with
  | slash before after =>
    have hother : before ++ "//" ++ after = before ++ "/" ++ ("" ++ "/" ++ after) := by
      simp [← String.toList_inj]
    rw [hother]
    exact components_append_congr (componentsBehind_append "" after) before
  | dot before after =>
    have hother : before ++ "/./" ++ after = before ++ "/" ++ ("." ++ "/" ++ after) := by
      simp [← String.toList_inj]
    rw [hother]
    exact components_append_congr (componentsBehind_append "." after) before
  | lastSlash hpath =>
    rw [← String.append_empty (s := path ++ "/"), components_append hpath]
    exact List.append_nil _
  | lastDot hpath =>
    have hother : path ++ "/." = path ++ "/" ++ "." := by simp [← String.toList_inj]
    rw [hother, components_append hpath]
    exact List.append_nil _

/-- Spellings that lead to each other, in any number of steps forward and back. -/
theorem components_eq_of_eqvGen {path other : String} (h : Relation.EqvGen Respelling path other) :
    components other = components path := by
  induction h with
  | rel _ _ hstep => exact hstep.components_eq
  | refl _ => rfl
  | symm _ _ _ ih => exact ih.symm
  | trans _ _ _ _ _ ihfirst ihsecond => exact ihsecond.trans ihfirst

/-! ## Names by their place -/

/-- The name that stands some places before the last component, and nothing where no name stands. -/
def nameFromEnd (parts : List Component) (place : Nat) : String :=
  match parts.reverse[place]? with
  | some (.normal name) => name
  | _ => ""

theorem lastName?_getD (parts : List Component) :
    (lastName? parts).getD "" = nameFromEnd parts 0 := by
  rw [lastName?, nameFromEnd, ← List.head?_eq_getElem?, List.head?_reverse]
  cases parts.getLast? with
  | none => rfl
  | some part => cases part <;> rfl

theorem nameFromEnd_dropLast (parts : List Component) (place : Nat) :
    nameFromEnd parts.dropLast place = nameFromEnd parts (place + 1) := by
  rw [nameFromEnd, ← List.tail_reverse, List.getElem?_tail, nameFromEnd]

end Path

namespace RunFile

open TrialSeries.Path

theorem ofPath_eq (path : String) (trial : Option String) :
    ofPath path trial =
      ⟨trial.getD (nameFromEnd (components path) 1), nameFromEnd (components path) 0, path⟩ := by
  rw [ofPath, fileName?, parentName?, lastName?_getD, lastName?_getD, nameFromEnd_dropLast]

theorem ofPath_directory {trial name : String} (htrial : IsName trial) (hname : IsName name)
    (directory : String) :
    ofPath (directory ++ "/" ++ trial ++ "/" ++ name) none =
      ⟨trial, name, directory ++ "/" ++ trial ++ "/" ++ name⟩ := by
  obtain ⟨front, hfront⟩ := exists_components_append directory
  have hne : directory ++ "/" ++ trial ≠ "" := by
    intro hempty
    simpa using congrArg String.toList hempty
  have hcomponents : components (directory ++ "/" ++ trial ++ "/" ++ name) =
      front ++ [.normal trial] ++ [.normal name] := by
    rw [components_append hne, hfront, (Adds.normal htrial).componentsBehind_eq,
      (Adds.normal hname).componentsBehind_eq]
  rw [ofPath_eq, hcomponents]
  simp [nameFromEnd]

theorem ofPath_respelled {path other : String} (h : Relation.EqvGen Respelling path other)
    (trial : Option String) : ofPath other trial = { ofPath path trial with path := other } := by
  rw [ofPath_eq, ofPath_eq, components_eq_of_eqvGen h]

/-- Each path has one list of components. The last of them names the run, and the one before it the
trial unless the trial is given; a component that is no name leaves the name empty. -/
theorem ofPath_follows_components :
    (∀ path, ∃ parts, (∀ others, HasComponents path others ↔ others = parts) ∧
      ofPath path none = ⟨nameFromEnd parts 1, nameFromEnd parts 0, path⟩ ∧
      ∀ trial, ofPath path (some trial) = ⟨trial, nameFromEnd parts 0, path⟩) ∧
    (∀ directory trial name, IsName trial → IsName name →
      ofPath (directory ++ "/" ++ trial ++ "/" ++ name) none =
        ⟨trial, name, directory ++ "/" ++ trial ++ "/" ++ name⟩) ∧
    ∀ path other, Relation.EqvGen Respelling path other →
      ∀ trial, ofPath other trial = { ofPath path trial with path := other } := by
  refine ⟨?_, ?_, ?_⟩
  · intro path
    refine ⟨components path, ?_, ofPath_eq path none, fun trial ↦ ofPath_eq path (some trial)⟩
    intro others
    rw [hasComponents_iff, eq_comm]
  · intro directory trial name htrial hname
    exact ofPath_directory htrial hname directory
  · intro path other h trial
    exact ofPath_respelled h trial

/-- A path with slashes and dots to spare names the run and the trial as the plain path does. -/
theorem ofPath_follows_components_respelled :
    ofPath "out/PART_DISC/hopCount_5.csv" none =
        ⟨"PART_DISC", "hopCount_5.csv", "out/PART_DISC/hopCount_5.csv"⟩ ∧
      ofPath "out//PART_DISC/./hopCount_5.csv/" none =
        ⟨"PART_DISC", "hopCount_5.csv", "out//PART_DISC/./hopCount_5.csv/"⟩ := by
  have htrial : IsName "PART_DISC" := ⟨by decide, by decide, by decide, by decide⟩
  have hname : IsName "hopCount_5.csv" := ⟨by decide, by decide, by decide, by decide⟩
  obtain ⟨-, hdirectory, hrespelled⟩ := ofPath_follows_components
  have hplain : ofPath "out/PART_DISC/hopCount_5.csv" none =
      ⟨"PART_DISC", "hopCount_5.csv", "out/PART_DISC/hopCount_5.csv"⟩ :=
    hdirectory "out" _ _ htrial hname
  have hpath : Relation.EqvGen Respelling "out/PART_DISC/hopCount_5.csv"
      "out//PART_DISC/./hopCount_5.csv/" :=
    .trans _ _ _ (.rel _ _ (.slash "out" "PART_DISC/hopCount_5.csv"))
      (.trans _ _ _ (.rel _ _ (.dot "out//PART_DISC" "hopCount_5.csv"))
        (.rel _ _ (.lastSlash (by decide))))
  refine ⟨hplain, ?_⟩
  rw [hrespelled _ _ hpath, hplain]

end RunFile

end TrialSeries
